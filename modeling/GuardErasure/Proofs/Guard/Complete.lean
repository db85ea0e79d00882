import GuardErasure.Proofs.Guard.Alike
import GuardErasure.Proofs.Guard.Meaning
import GuardErasure.Proofs.Guard.Residue
import GuardErasure.Query.Backend

namespace GuardErasure

/-!
# Trees that are left without a choice

A backend that cannot run a choice wants all of them gone:

* `Expr.outerChoices` — the outermost choices of a tree;
* `Shape.kept_eq_nil_of_nullChoices` — inside a guard no choice is kept of a tree whose choices
  are all on null;
* `Memory.screen_of_choices` — a query without a choice passes, even if the backend is strict;
* `choices_eraseGuards_eq_nil` — where the outermost choices are guards and all deeper ones are on
  null, no choice is left.
-/

namespace Expr

mutual

/-- The choices of a tree that have no choice above them. -/
def outerChoices : Expr → List Expr
  | member owner _ _ => outerChoices owner
  | callOn receiver _ args _ => outerChoices receiver ++ outerChoicesOf args
  | call _ args _ => outerChoicesOf args
  | unary _ operand _ => outerChoices operand
  | binary _ left right _ => outerChoices left ++ outerChoices right
  | cond test ifTrue ifFalse t => [cond test ifTrue ifFalse t]
  | lambda _ body => outerChoices body
  | const .. | param .. | root .. | source .. | foreign .. => []

/-- The choices of several trees that have no choice above them. -/
def outerChoicesOf : List Expr → List Expr
  | [] => []
  | e :: es => outerChoices e ++ outerChoicesOf es

end

theorem outerChoicesOf_eq_flatMap (es : List Expr) :
    outerChoicesOf es = es.flatMap outerChoices := by
  induction es with
  | nil => rfl
  | cons e es ih =>
    rw [List.flatMap_cons, ← ih]
    rfl

theorem outerChoices_call (m : Method) (args : List Expr) (t : Ty) :
    (call m args t).outerChoices = args.flatMap outerChoices :=
  outerChoicesOf_eq_flatMap args

theorem outerChoices_callOn (receiver : Expr) (m : Method) (args : List Expr) (t : Ty) :
    (callOn receiver m args t).outerChoices
      = receiver.outerChoices ++ args.flatMap outerChoices :=
  congrArg (receiver.outerChoices ++ ·) (outerChoicesOf_eq_flatMap args)

theorem outerChoices_binary (op : BinOp) (left right : Expr) (t : Ty) :
    (binary op left right t).outerChoices = left.outerChoices ++ right.outerChoices := rfl

/-- Every choice below another one is on null. -/
def DeeperOnNull (e : Expr) : Prop :=
  ∀ c ∈ e.choices, ∀ part ∈ c.parts, ∀ d ∈ part.choices, d.isNullChoice = true

instance (e : Expr) : Decidable e.DeeperOnNull :=
  inferInstanceAs
    (Decidable (∀ c ∈ e.choices, ∀ part ∈ c.parts, ∀ d ∈ part.choices, d.isNullChoice = true))

end Expr

namespace Shape

variable {s : Shape}

/-- Inside a guard no choice is kept of a tree whose choices are all on null. -/
theorem kept_eq_nil_of_nullChoices {e : Expr} (h : ∀ d ∈ e.choices, d.isNullChoice = true) :
    s.kept true e = [] := by
  rw [List.eq_nil_iff_forall_not_mem]
  intro k hk
  obtain ⟨hmem, _, hkeep⟩ := node_of_mem_kept hk
  exact hkeep ⟨inside_of_mem_kept s _ k hk, h k.node hmem⟩

/-- Nothing is kept of a tree whose outermost choices are guards and whose deeper ones are on
    null. -/
theorem kept_eq_nil_of_outer {e : Expr} (houter : ∀ c ∈ e.outerChoices, s.isGuard c = true)
    (hdeeper : e.DeeperOnNull) : s.kept false e = [] := by
  unfold Expr.DeeperOnNull at hdeeper
  -- outside of guards the tree itself decides, down to its outermost choices
  induction e with
  | const | param | root | source | foreign => rfl
  | member owner n t ih =>
    rw [Expr.choices_member] at hdeeper
    exact ih houter hdeeper
  | lambda params body ih =>
    rw [Expr.choices_lambda] at hdeeper
    exact ih houter hdeeper
  | unary op operand t ih =>
    rw [Expr.choices_unary] at hdeeper
    exact ih houter hdeeper
  | binary op left right t ihl ihr =>
    rw [Expr.outerChoices_binary, List.forall_mem_append] at houter
    rw [Expr.choices_binary, List.forall_mem_append] at hdeeper
    rw [kept_outside, ihl houter.1 hdeeper.1, ihr houter.2 hdeeper.2, List.append_nil]
  | call m args t ih =>
    rw [Expr.outerChoices_call, List.forall_mem_flatMap] at houter
    rw [Expr.choices_call, List.forall_mem_flatMap] at hdeeper
    rw [kept_call, List.flatMap_eq_nil_iff]
    exact fun a ha => ih a ha (houter a ha) (hdeeper a ha)
  | callOn receiver m args t ihr ih =>
    rw [Expr.outerChoices_callOn, List.forall_mem_append, List.forall_mem_flatMap] at houter
    rw [Expr.choices_callOn, List.forall_mem_append, List.forall_mem_flatMap] at hdeeper
    rw [kept_callOn, List.append_eq_nil_iff, List.flatMap_eq_nil_iff]
    exact ⟨ihr houter.1 hdeeper.1, fun a ha => ih a ha (houter.2 a ha) (hdeeper.2 a ha)⟩
  | cond test ifTrue ifFalse t =>
    have hguard : s.isGuard (.cond test ifTrue ifFalse t) = true :=
      houter _ List.mem_cons_self
    obtain ⟨⟨path, part⟩, hg⟩ := Option.isSome_iff_exists.mp hguard
    -- what the guard gives way to is one of its parts, so that all choices in it are deeper ones
    have hbranch : ∀ d ∈ ifFalse.choices, d.isNullChoice = true :=
      hdeeper (.cond test ifTrue ifFalse t) (by simp) ifFalse (by simp [Expr.parts])
    rw [kept_guard hg]
    exact kept_eq_nil_of_nullChoices hbranch

end Shape

/-- A query without a choice passes, even if the backend is strict. -/
theorem Memory.screen_of_choices (m : Memory) {e : Expr} (h : e.choices = []) :
    m.screen e = .ok () := by
  have hfind : e.nodes.find? Expr.isCond = none := by
    rw [List.find?_eq_none]
    intro n hn hcond
    have hmem : n ∈ e.choices := Expr.mem_choices.mpr ⟨hn, hcond⟩
    rw [h] at hmem
    cases hmem
  rw [Memory.screen, hfind]
  exact ite_self _

/-- **Guards whose deeper choices are on null.**  If every outermost choice of a tree is a guard of
    either basic shape, and every choice below another one is on null, then no choice is left
    when the guards are erased: every backend in memory, strict or not, takes what is left, and
    a second erasure leaves it as it is. -/
theorem choices_eraseGuards_eq_nil {e : Expr}
    (houter : ∀ c ∈ e.outerChoices,
      Shape.member.isGuard c = true ∨ Shape.method.isGuard c = true)
    (hdeeper : e.DeeperOnNull) :
    (∀ n ∈ (eraseGuards e).nodes, n.isCond = false)
      ∧ (∀ m : Memory, m.screen (eraseGuards e) = .ok ())
      ∧ eraseGuards (eraseGuards e) = eraseGuards e := by
  have hkept : Shape.both.kept false e = [] := by
    refine Shape.kept_eq_nil_of_outer (fun c hc => ?_) hdeeper
    rw [Shape.isGuard_both, Bool.or_eq_true]
    exact houter c hc
  have hchoices : (eraseGuards e).choices = [] := by
    rw [eraseGuards, Shape.erase_eq_swept, Shape.choices_swept, hkept, List.map_nil]
  refine ⟨fun n hn => ?_, fun m => m.screen_of_choices hchoices, ?_⟩
  · refine Bool.eq_false_iff.mpr (fun hcond => ?_)
    have hmem := Expr.mem_choices.mpr ⟨hn, hcond⟩
    rw [hchoices] at hmem
    cases hmem
  · refine (Shape.swept_eq_self_iff .both _).mpr ?_
    rw [hchoices]
    exact List.forall_mem_nil _

namespace Samples

/-- The people that a guard on a path which is itself guarded accepts, and whose lower-case name
    is `"k"`. -/
def strictQuery : Expr :=
  .callNamed "where"
    [.source "people" personTy, condition (nestedGuard.combine .and nameGuardTest)]
    (.seq personTy)

/-- People in a memory that refuses choices. -/
def strictMemory : Memory :=
  { table := people, element := personTy, settings := .strictly }

end Samples

/-- A query with guards of both shapes, one of them around another choice on null, does not reach
    a strict backend as it is, and does once its guards are erased. -/
theorem choices_eraseGuards_strictQuery :
    (Samples.strictMemory.screen Samples.strictQuery).isOk = false
      ∧ (∀ c ∈ Samples.strictQuery.outerChoices,
        Shape.member.isGuard c = true ∨ Shape.method.isGuard c = true)
      ∧ Samples.strictQuery.choices.length = 4
      ∧ Samples.strictMemory.screen (eraseGuards Samples.strictQuery) = .ok () := by
  have houter : ∀ c ∈ Samples.strictQuery.outerChoices,
      Shape.member.isGuard c = true ∨ Shape.method.isGuard c = true := by decide
  exact ⟨by decide, houter, by decide,
    (choices_eraseGuards_eq_nil houter (by decide)).2.1 Samples.strictMemory⟩

end GuardErasure
