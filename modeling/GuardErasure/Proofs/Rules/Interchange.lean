import GuardErasure.Proofs.Guard.AtSource
import GuardErasure.Proofs.Rules.Preparing
import GuardErasure.Proofs.Rules.Spliced

namespace GuardErasure

/-!
# Putting a source in place and erasing guards

The preparation first puts the source in the place of the roots and then erases guards.  It could do so
the other way around:

* `Expr.withSource_source` — to put a plain source in the place of the roots is to turn them into it,
  if every operation has the type that its operands give it;
* `Rule.rootSplice_eraseGuards_comm` — both orders leave the same tree.
-/

variable {name : String} {element : Ty}

namespace Expr

/-- No node is typed anew when a source takes the place of roots over its elements: they had the same
    type. -/
theorem withSource_source {e : Expr} (hroots : ∀ t ∈ e.rootElements, t = element)
    (hcombined : e.Combined) : e.withSource (.source name element) = e.atSource name := by
  have hargs {args : List Expr} (ih : ∀ a ∈ args, (∀ t ∈ a.rootElements, t = element) → a.Combined →
      a.withSource (.source name element) = a.atSource name)
      (hroots : ∀ t ∈ args.flatMap rootElements, t = element) (hcombined : ∀ a ∈ args, a.Combined) :
      args.map (filled (atRoot (.source name element))) = args.map (atSource name) :=
    List.map_congr_left fun a ha => ih a ha (List.forall_mem_flatMap.mp hroots a ha) (hcombined a ha)
  show e.filled (atRoot (.source name element)) = _
  induction e with
  | const | param | source | foreign => rfl
  | root t =>
    obtain rfl : t = element := hroots t (List.mem_singleton_self t)
    rfl
  | member owner n t ih =>
    rw [rootElements_member] at hroots
    rw [combined_member] at hcombined
    rw [filled, atSource, ih hroots hcombined]
  | unary op operand t ih =>
    rw [rootElements_unary] at hroots
    rw [combined_unary] at hcombined
    rw [filled, atSource, ih hroots hcombined]
  | lambda params body ih =>
    rw [rootElements_lambda] at hroots
    rw [combined_lambda] at hcombined
    rw [filled, atSource, ih hroots hcombined]
  | binary op left right t ihl ihr =>
    rw [rootElements_binary, List.forall_mem_append] at hroots
    obtain ⟨ht, hleft, hright⟩ := (combined_binary op left right t).mp hcombined
    rw [filled, atSource, ihl hroots.1 hleft, ihr hroots.2 hright, ty_atSource, ty_atSource, ← ht,
      ite_self]
  | cond test ifTrue ifFalse t iha ihb ihc =>
    rw [rootElements_cond, List.forall_mem_append, List.forall_mem_append] at hroots
    rw [combined_cond] at hcombined
    rw [filled, atSource, iha hroots.1.1 hcombined.1, ihb hroots.1.2 hcombined.2.1,
      ihc hroots.2 hcombined.2.2]
  | call m args t ih =>
    rw [rootElements_call] at hroots
    rw [combined_call] at hcombined
    rw [filled_call, atSource_call, hargs ih hroots hcombined]
  | callOn receiver m args t ihr ih =>
    rw [rootElements_callOn, List.forall_mem_append] at hroots
    rw [combined_callOn] at hcombined
    rw [filled_callOn, atSource_callOn, ihr hroots.1 hcombined.1, hargs ih hroots.2 hcombined.2]

/-- A tree waits for a source that is not in it if all its roots are over the elements of that. -/
theorem awaits_of_roots {e : Expr} (hroots : ∀ t ∈ e.rootElements, t = element)
    (hnot : .source name element ∉ e.nodes) : e.Awaits name element := by
  intro n hn
  cases n with
  | root t => exact hroots t (mem_rootElements.mpr hn)
  | source m t =>
    rintro ⟨rfl, rfl⟩
    exact hnot hn
  | _ => trivial

end Expr

namespace Rule

/-- What the rule gives back for a plain source. -/
theorem result_rootSplice_source {e : Expr} (hroots : ∀ t ∈ e.rootElements, t = element)
    (hcombined : e.Combined) :
    ((rootSplice (.source name element)).act e).result
      = .ok ⟨e.atSource name, !e.rootElements.isEmpty⟩ := by
  have hfits : ∀ t ∈ e.rootElements, (Expr.source name element).ty.element? = some t := by
    intro t ht
    rw [hroots t ht]
    rfl
  rw [result_rootSplice hfits, splice_eq_withSource hfits,
    Expr.withSource_source hroots hcombined]

/-- **The two steps of the preparation commute.**  In a tree of which every root is over the elements
    of the source, no node is the source and every operation has the type that its operands give it,
    guards may be erased before the source is put in place or after that. -/
theorem rootSplice_eraseGuards_comm (name : String) (element : Ty) (e : Expr)
    (hroots : ∀ t, .root t ∈ e.nodes → t = element) (hnot : .source name element ∉ e.nodes)
    (hcombined : ∀ n ∈ e.nodes, n.IsCombined) :
    ∃ placedFirst placedLast : Outcome,
      ((rootSplice (.source name element)).act e).result = .ok placedFirst
        ∧ ((rootSplice (.source name element)).act (eraseGuards e)).result = .ok placedLast
        ∧ eraseGuards placedFirst.expr = placedLast.expr := by
  have hroots : ∀ t ∈ e.rootElements, t = element :=
    fun t ht => hroots t (Expr.mem_rootElements.mp ht)
  have hleft : ∀ t ∈ (eraseGuards e).rootElements, t = element :=
    fun t ht => hroots t (Shape.both.rootElements_swept false e ht)
  have hkept : (eraseGuards e).Combined := Shape.both.combined_swept false hcombined
  have herase : eraseGuards (e.atSource name) = (eraseGuards e).atSource name :=
    Shape.erase_atSource (Expr.awaits_of_roots hroots hnot) hcombined
  exact ⟨_, _, result_rootSplice_source hroots hcombined, result_rootSplice_source hleft hkept,
    herase⟩

end Rule

namespace Samples

/-- The flag of the first person in a query, which may be missing. -/
def firstFlag (query : Expr) : Expr :=
  (Expr.callNamed "first" [query] personTy).read "Flag" (.option .bool)

/-- The people in a query, if a flag is set and there are more of them than pets. -/
def ifMoreThanPets (query flag : Expr) : Expr :=
  let counted (q : Expr) : Expr := .callNamed "count" [q] .int64
  .callNamed "where" [query, condition (flag.combine .and
    ((counted (.source "pets" personTy)).combine .less (counted query)))] (.seq personTy)

/-- The flag is that of the first one among them, behind a guard. -/
def guardedFirst (query : Expr) : Expr := ifMoreThanPets query (firstFlag query).guarded

/-- The flag is that of the first one among them, as it is. -/
def bareFirst (query : Expr) : Expr := ifMoreThanPets query (firstFlag query)

end Samples

/-- The path of a guard has the root in it, and the operation above the guard is typed anew, whichever
    step comes first. -/
theorem Rule.rootSplice_eraseGuards_comm_guardedFirst :
    ∃ placedFirst placedLast : Outcome,
      ((rootSplice (.source "people" Samples.personTy)).act
          (Samples.guardedFirst (.root Samples.personTy))).result = .ok placedFirst
        ∧ ((rootSplice (.source "people" Samples.personTy)).act
          (eraseGuards (Samples.guardedFirst (.root Samples.personTy)))).result = .ok placedLast
        ∧ eraseGuards placedFirst.expr = placedLast.expr
        ∧ placedLast.expr = Samples.bareFirst (.source "people" Samples.personTy) := by
  have hroots : ∀ t ∈ (Samples.guardedFirst (.root Samples.personTy)).rootElements,
      t = Samples.personTy := by decide
  have hother : ∀ n ∈ (Samples.guardedFirst (.root Samples.personTy)).nodes,
      n ≠ .source "people" Samples.personTy := by decide
  have hcombined : ∀ n ∈ (Samples.guardedFirst (.root Samples.personTy)).nodes,
      n.IsCombined := by decide
  obtain ⟨first, last, hfirst, hlast, heq⟩ := rootSplice_eraseGuards_comm "people"
    Samples.personTy (Samples.guardedFirst (.root Samples.personTy))
    (fun t ht => hroots t (Expr.mem_rootElements.mpr ht)) (fun h => hother _ h rfl) hcombined
  have hbare : last = ⟨Samples.bareFirst (.source "people" Samples.personTy), true⟩ :=
    Except.ok.inj (hlast.symm.trans rfl)
  exact ⟨first, last, hfirst, hlast, heq, congrArg Outcome.expr hbare⟩

end GuardErasure
