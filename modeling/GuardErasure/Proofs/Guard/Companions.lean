import GuardErasure.Proofs.Guard.Swept
import GuardErasure.Samples

namespace GuardErasure

/-!
# No companion check is left inside a guard

The lowering puts tests for not-null and conversions to a nullable truth value beside a guard, and
a backend that has no use for the guard has none for them:

* `Expr.isNotNullTest`, `Expr.isWidening` — the two kinds of companion checks;
* `Shape.swept_guard` — a guard is left in the same way inside and outside of another one;
* `Shape.noCompanion_swept` — inside a guard no companion check is left at any depth;
* `Eraser.erase_leaves_no_companion` — nor in what is left of a guard.
-/

namespace Expr

/-- Is this a test for not-null, with the null literal on either side? -/
def isNotNullTest : Expr → Bool
  | binary .notEqual left right _ => left.isNullLiteral || right.isNullLiteral
  | _ => false

/-- Is this a conversion to a nullable truth value? -/
def isWidening : Expr → Bool
  | unary .convert _ t => t.isOptionBool
  | _ => false

/-- Is this neither? -/
def NoCompanion (e : Expr) : Prop := e.isNotNullTest = false ∧ e.isWidening = false

instance (e : Expr) : Decidable e.NoCompanion :=
  inferInstanceAs (Decidable (e.isNotNullTest = false ∧ e.isWidening = false))

theorem isNotNullTest_binary (op : BinOp) (left right : Expr) (t : Ty) :
    (binary op left right t).isNotNullTest
      = (op == .notEqual && (left.isNullLiteral || right.isNullLiteral)) := by
  cases op <;> rfl

theorem noCompanion_unary {op : UnOp} {t : Ty} (h : ¬(op = .convert ∧ t.isOptionBool = true))
    (operand : Expr) : (unary op operand t).NoCompanion := by
  refine ⟨rfl, ?_⟩
  cases op with
  | convert => exact Bool.eq_false_iff.mpr (fun ht => h ⟨rfl, ht⟩)
  | _ => rfl

end Expr

namespace Shape

variable {s : Shape}

/-- What is left of a guard does not depend on what is around it. -/
theorem swept_guard {e : Expr} (h : s.isGuard e = true) (inside : Bool) :
    s.swept inside e = s.swept true e := by
  cases e with
  | cond test ifTrue ifFalse t =>
    obtain ⟨⟨path, part⟩, hg⟩ := Option.isSome_iff_exists.mp h
    cases part with
    | whole =>
      have hway : s.GivesWay inside (.cond test ifTrue ifFalse t) ifFalse := givesWay_wholeGuard hg
      rw [hway.1, (givesWay_wholeGuard hg).1]
    | owner =>
      obtain ⟨owner, u, rfl⟩ := guard?_owner hg
      have hway : s.GivesWay inside (.cond test ifTrue (.member owner .wrappedValue u) t) owner :=
        givesWay_ownerGuard hg
      rw [hway.1, (givesWay_ownerGuard hg).1]
  | _ => cases h

/-- **Inside a guard no companion check is left**, at any depth. -/
theorem noCompanion_swept (s : Shape) (e : Expr) :
    ∀ n ∈ (s.swept true e).nodes, n.NoCompanion := by
  -- where a node gives way to its part, or to nothing, there is nothing to say about the node
  induction e using s.inductInside with
  | leaf e he =>
    rw [swept_leaf he]
    cases e with
    | const | param | root | source | foreign => exact List.forall_mem_singleton.mpr ⟨rfl, rfl⟩
    | _ => cases he
  | member owner n t ih =>
    rw [swept_member, Expr.forall_nodes_iff]
    exact ⟨⟨rfl, rfl⟩, List.forall_mem_singleton.mpr ih⟩
  | lambda params body ih =>
    rw [swept_lambda, Expr.forall_nodes_iff]
    exact ⟨⟨rfl, rfl⟩, List.forall_mem_singleton.mpr ih⟩
  | call m args t ih =>
    rw [swept_call, Expr.forall_nodes_iff]
    exact ⟨⟨rfl, rfl⟩, List.forall_mem_map.mpr ih⟩
  | callOn receiver m args t ihr ih =>
    rw [swept_callOn, Expr.forall_nodes_iff]
    exact ⟨⟨rfl, rfl⟩, List.forall_mem_cons.mpr ⟨ihr, List.forall_mem_map.mpr ih⟩⟩
  | unary op operand t hu ih =>
    rw [swept_unary (fun h => hu h.2), Expr.forall_nodes_iff]
    exact ⟨Expr.noCompanion_unary hu _, List.forall_mem_singleton.mpr ih⟩
  | stripped operand t ht ih => rwa [(givesWay_stripped ht).1]
  | leftDropped op left right t hl _ ihr => rwa [(givesWay_leftDropped hl).1]
  | rightDropped op left right t hl hr ihl _ => rwa [(givesWay_rightDropped hl hr).1]
  | companion op left right t hl hr hc =>
    rw [swept_of_drops (drops_companion hl hr hc)]
    exact List.forall_mem_singleton.mpr ⟨rfl, rfl⟩
  | bothLeft op left right t hl hr hc ihl ihr =>
    obtain ⟨t', ht'⟩ := swept_inside (t := t) hl hr hc
    -- the operation was kept because what is left of its operands makes it no test for not-null
    have hself : (Expr.binary op (s.swept true left) (s.swept true right) t').NoCompanion :=
      ⟨(Expr.isNotNullTest_binary ..).trans hc, rfl⟩
    rw [ht', Expr.forall_nodes_iff]
    exact ⟨hself, List.forall_mem_cons.mpr ⟨ihl, List.forall_mem_singleton.mpr ihr⟩⟩
  | ownerGuard test ifTrue owner u t path hg ih => rwa [(givesWay_ownerGuard hg).1]
  | wholeGuard test ifTrue ifFalse t path hg ih => rwa [(givesWay_wholeGuard hg).1]
  | collapsed test ifTrue ifFalse t hg hnull ih => rwa [(givesWay_collapsed hg hnull).1]
  | cond test ifTrue ifFalse t hg hnull iha ihb ihc =>
    rw [swept_cond hg (by simp [hnull]), Expr.forall_nodes_iff]
    exact ⟨⟨rfl, rfl⟩, List.forall_mem_cons.mpr
      ⟨iha, List.forall_mem_cons.mpr ⟨ihb, List.forall_mem_singleton.mpr ihc⟩⟩⟩

end Shape

/-- **Companion checks never dangle.**  A run that is inside a guard, or that is given one, leaves no
    test for not-null and no conversion to a nullable truth value, in arguments and functions no
    more than elsewhere. -/
theorem Eraser.erase_leaves_no_companion {r : Eraser} {e : Expr}
    (h : r.inside = true ∨ r.shape.isGuard e = true) :
    ∀ n ∈ (r.erase e).1.nodes, n.isNotNullTest = false ∧ n.isWidening = false := by
  have hswept : (r.erase e).1 = r.shape.swept true e := by
    show r.shape.swept r.inside e = r.shape.swept true e
    rcases h with hin | hguard
    · rw [hin]
    · exact Shape.swept_guard hguard r.inside
  rw [hswept]
  exact r.shape.noCompanion_swept e

namespace Samples

/-- `any(people, p => p.Flag != (null as bool?) && (p.Name.to_lower() == "k") as bool?)`, where an
    operand is the null literal only once the conversion around it is gone. -/
def companionSearch : Expr :=
  .callNamed "any"
    [.source "people" personTy,
     condition ((flag.combine .notEqual ((Expr.null .bool).convertTo (.option .bool))).combine .and
      (nameTest.convertTo (.option .bool)))]
    (.option .bool)

end Samples

/-- The checks in the function that is an argument go, whether the search is guarded or met inside a
    guard. -/
theorem Eraser.erase_companionSearch :
    Shape.both.isGuard Samples.companionSearch.guarded = true
      ∧ (Samples.companionSearch.guarded.nodes.countP Expr.isWidening) = 4
      ∧ (∀ n ∈ (Eraser.erase { shape := .both } Samples.companionSearch.guarded).1.nodes,
        n.isNotNullTest = false ∧ n.isWidening = false)
      ∧ (∀ n ∈ (Eraser.erase { shape := .both, inside := true } Samples.companionSearch).1.nodes,
        n.isNotNullTest = false ∧ n.isWidening = false)
      ∧ (Eraser.erase { shape := .both } Samples.companionSearch.guarded).1
        = .callNamed "any" [.source "people" Samples.personTy, Samples.condition Samples.nameTest]
          (.option .bool) := by
  have hguard : Shape.both.isGuard Samples.companionSearch.guarded = true := by decide
  refine ⟨hguard, by decide, ?_, ?_, rfl⟩
  · exact Eraser.erase_leaves_no_companion (r := { shape := .both }) (.inr hguard)
  · exact Eraser.erase_leaves_no_companion (r := { shape := .both, inside := true }) (.inl rfl)

end GuardErasure
