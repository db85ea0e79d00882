import Mathlib.Algebra.GroupWithZero.Nat
import GuardErasure.Proofs.Guard.Swept

namespace GuardErasure.Shape

/-!
# The guards that the pass counts

The pass takes a note of every guard that it removes.  Read as a number:

* `removed` — how many guards are removed from a tree, inside a guard or not, with one equation
  for each kind of node;
* `size_swept_add_removed_le` — with every guard at least five nodes go, and nothing else makes a
  tree larger;
* `removed_eq_zero_iff` — outside of guards none is removed exactly if there is none in the tree.
-/

variable {s : Shape} {inside : Bool}

/-- How many guards the pass removes from a tree. -/
def removed (s : Shape) (inside : Bool) (e : Expr) : Nat :=
  (s.sweep inside e).notes.countP Note.isRemoval

/-! ### The count, node by node -/

theorem removed_leaf {e : Expr} (h : e.isLeaf = true) : s.removed inside e = 0 := by
  cases e <;> first | rfl | exact absurd h (by simp [Expr.isLeaf])

theorem removed_member (owner : Expr) (n : MemberName) (t : Ty) :
    s.removed inside (.member owner n t) = s.removed inside owner := rfl

theorem removed_lambda (params : List String) (body : Expr) :
    s.removed inside (.lambda params body) = s.removed inside body := rfl

/-- A conversion that is stripped is no guard. -/
theorem removed_unary (op : UnOp) (operand : Expr) (t : Ty) :
    s.removed inside (.unary op operand t) = s.removed inside operand := by
  unfold removed
  rw [sweep_unary]
  split
  · simp [Sweep.inPlaceOf, Note.isRemoval]
  · rfl

/-- What is removed from the arguments of a call. -/
theorem countP_sweepArgs (args : List Expr) :
    (s.sweepArgs inside args).2.countP Note.isRemoval = (args.map (s.removed inside)).sum := by
  induction args with
  | nil => rfl
  | cons a as ih =>
    show ((s.sweep inside a).notes ++ (s.sweepArgs inside as).2).countP _ = _
    rw [List.countP_append, ih, List.map_cons, List.sum_cons]
    rfl

theorem removed_call (m : Method) (args : List Expr) (t : Ty) :
    s.removed inside (.call m args t) = (args.map (s.removed inside)).sum :=
  countP_sweepArgs args

theorem removed_callOn (receiver : Expr) (m : Method) (args : List Expr) (t : Ty) :
    s.removed inside (.callOn receiver m args t)
      = s.removed inside receiver + (args.map (s.removed inside)).sum := by
  rw [← countP_sweepArgs]
  exact List.countP_append

/-- A test for not-null that is dropped is no guard. -/
theorem countP_inBinary (op : BinOp) (left right : Expr) (l r : Sweep) :
    (Sweep.inBinary op left right l r).notes.countP Note.isRemoval
      = l.notes.countP Note.isRemoval + r.notes.countP Note.isRemoval := by
  rw [← List.countP_append]
  unfold Sweep.inBinary
  split
  · rfl
  · rfl
  · split
    · simp [Note.isRemoval]
    · split <;> rfl

/-- Guards in an operand count even if the operand is dropped. -/
theorem removed_binary (op : BinOp) (left right : Expr) (t : Ty) :
    s.removed inside (.binary op left right t)
      = s.removed inside left + s.removed inside right := by
  cases inside with
  | false => exact List.countP_append
  | true => exact countP_inBinary op left right (s.sweep true left) (s.sweep true right)

section Choice

variable {test ifTrue ifFalse path : Expr} {t : Ty}

theorem removed_ownerGuard {owner : Expr} {n : MemberName} {u : Ty}
    (h : s.guard? test ifTrue (.member owner n u) = some (path, .owner)) :
    s.removed inside (.cond test ifTrue (.member owner n u) t) = s.removed true owner + 1 := by
  unfold removed
  rw [sweep_cond, h]
  exact List.countP_cons_of_pos rfl

theorem removed_wholeGuard (h : s.guard? test ifTrue ifFalse = some (path, .whole)) :
    s.removed inside (.cond test ifTrue ifFalse t) = s.removed true ifFalse + 1 := by
  unfold removed
  rw [sweep_cond, h]
  exact List.countP_cons_of_pos rfl

/-- A choice on null that gives way inside a guard is no guard itself. -/
theorem removed_collapsed (h : s.guard? test ifTrue ifFalse = none)
    (hnull : test.isNullCheck = true) :
    s.removed true (.cond test ifTrue ifFalse t) = s.removed true ifFalse := by
  unfold removed
  rw [sweep_cond, h]
  simp only [hnull, and_self, if_true]
  exact List.countP_cons_of_neg (by simp [Note.isRemoval])

theorem removed_cond (h : s.guard? test ifTrue ifFalse = none)
    (hkeep : ¬(inside = true ∧ test.isNullCheck = true)) :
    s.removed inside (.cond test ifTrue ifFalse t)
      = s.removed inside test + s.removed inside ifTrue + s.removed inside ifFalse := by
  unfold removed
  rw [sweep_cond, h, ← List.countP_append, ← List.countP_append]
  exact congrArg (fun v : Sweep => v.notes.countP Note.isRemoval) (if_neg hkeep)

end Choice

/-! ### Size -/

/-- A test for null has three nodes at least: itself, the path and the literal. -/
theorem size_of_isNullCheck {test : Expr} (h : test.isNullCheck = true) : 3 ≤ test.size := by
  obtain ⟨path, hpath⟩ := Option.isSome_iff_exists.mp h
  obtain ⟨nt, t, rfl⟩ := Expr.nullChecked?_eq_some.mp hpath
  have hsize : 0 < path.size := Expr.size_pos path
  rw [Expr.size_binary, Expr.size_const]
  omega

theorem sizeOfAll_map_add_removed_le {args : List Expr}
    (h : ∀ a ∈ args, (s.swept inside a).size + 5 * s.removed inside a ≤ a.size) :
    Expr.sizeOfAll (args.map (s.swept inside)) + 5 * (args.map (s.removed inside)).sum
      ≤ Expr.sizeOfAll args := by
  induction args with
  | nil => exact Nat.le_refl _
  | cons a as ih =>
    have ha : (s.swept inside a).size + 5 * s.removed inside a ≤ a.size := h a (by simp)
    have has := ih (fun b hb => h b (by simp [hb]))
    simp only [List.map_cons, List.sum_cons, Expr.sizeOfAll]
    omega

/-- **Every removed guard takes five nodes along** at least, and nothing that the pass does makes
    a tree larger. -/
theorem size_swept_add_removed_le (s : Shape) (inside : Bool) (e : Expr) :
    (s.swept inside e).size + 5 * s.removed inside e ≤ e.size := by
  induction inside, e using s.inductSwept with
  | leaf _ e he =>
    rw [swept_leaf he, removed_leaf he]
    exact Nat.le_refl _
  | member _ owner n t ih =>
    rw [swept_member, removed_member, Expr.size_member, Expr.size_member]
    omega
  | lambda _ params body ih =>
    rw [swept_lambda, removed_lambda, Expr.size_lambda, Expr.size_lambda]
    omega
  | call _ m args t ih =>
    have hargs := sizeOfAll_map_add_removed_le ih
    rw [swept_call, removed_call, Expr.size_call, Expr.size_call]
    omega
  | callOn _ receiver m args t ihr ih =>
    have hargs := sizeOfAll_map_add_removed_le ih
    rw [swept_callOn, removed_callOn, Expr.size_callOn, Expr.size_callOn]
    omega
  | unary _ op operand t hu ih =>
    rw [swept_unary hu, removed_unary, Expr.size_unary, Expr.size_unary]
    omega
  | stripped operand t ht ih =>
    rw [(givesWay_stripped ht).1, removed_unary, Expr.size_unary]
    omega
  | outside op left right t ihl ihr =>
    obtain ⟨t', ht'⟩ := swept_outside (s := s) op left right t
    rw [ht', removed_binary, Expr.size_binary, Expr.size_binary]
    omega
  | leftDropped op left right t hl ihl ihr =>
    rw [(givesWay_leftDropped hl).1, removed_binary, Expr.size_binary]
    omega
  | rightDropped op left right t hl hr ihl ihr =>
    rw [(givesWay_rightDropped hl hr).1, removed_binary, Expr.size_binary]
    omega
  | companion op left right t hl hr hc ihl ihr =>
    -- the literal `true` is no larger than what was left of either operand
    have hleft : 0 < (s.swept true left).size := Expr.size_pos _
    rw [swept_of_drops (drops_companion hl hr hc), removed_binary, Expr.size_binary,
      Expr.trueLiteral, Expr.size_const]
    omega
  | bothLeft op left right t hl hr hc ihl ihr =>
    obtain ⟨t', ht'⟩ := swept_inside (t := t) hl hr hc
    rw [ht', removed_binary, Expr.size_binary, Expr.size_binary]
    omega
  | ownerGuard _ test ifTrue owner u t path hg ih =>
    have htest := size_of_isNullCheck (isNullCheck_of_guard? hg)
    have hdefault : 0 < ifTrue.size := Expr.size_pos ifTrue
    rw [(givesWay_ownerGuard hg).1, removed_ownerGuard hg, Expr.size_cond, Expr.size_member]
    omega
  | wholeGuard _ test ifTrue ifFalse t path hg ih =>
    have htest := size_of_isNullCheck (isNullCheck_of_guard? hg)
    have hdefault : 0 < ifTrue.size := Expr.size_pos ifTrue
    rw [(givesWay_wholeGuard hg).1, removed_wholeGuard hg, Expr.size_cond]
    omega
  | collapsed test ifTrue ifFalse t hg hnull ih =>
    rw [(givesWay_collapsed hg hnull).1, removed_collapsed hg hnull, Expr.size_cond]
    omega
  | cond _ test ifTrue ifFalse t hg hkeep iha ihb ihc =>
    rw [swept_cond hg hkeep, removed_cond hg hkeep, Expr.size_cond, Expr.size_cond]
    omega

/-! ### Trees without guards -/

theorem guard?_eq_none {test ifTrue ifFalse : Expr} {t : Ty}
    (h : s.isGuard (.cond test ifTrue ifFalse t) = false) :
    s.guard? test ifTrue ifFalse = none :=
  Option.isNone_iff_eq_none.mp (Option.isSome_eq_false_iff.mp h)

/-- Wherever it stands, a guard is removed. -/
theorem removed_pos_of_isGuard {e : Expr} (h : s.isGuard e = true) : 0 < s.removed inside e := by
  cases e with
  | cond test ifTrue ifFalse t =>
    obtain ⟨⟨path, part⟩, hg⟩ := Option.isSome_iff_exists.mp h
    cases part with
    | whole =>
      rw [removed_wholeGuard hg]
      exact Nat.succ_pos _
    | owner =>
      obtain ⟨owner, u, rfl⟩ := guard?_owner hg
      rw [removed_ownerGuard hg]
      exact Nat.succ_pos _
  | _ => cases h

/-- **Outside of guards** the pass removes none exactly if there is none in the tree. -/
theorem removed_eq_zero_iff (s : Shape) (e : Expr) :
    s.removed false e = 0 ↔ ∀ n ∈ e.choices, s.isGuard n = false := by
  induction e with
  | const | param | root | source | foreign =>
    refine iff_of_true rfl ?_
    rw [Expr.choices_leaf rfl]
    exact List.forall_mem_nil _
  | member owner n t ih => rw [removed_member, Expr.choices_member, ih]
  | lambda params body ih => rw [removed_lambda, Expr.choices_lambda, ih]
  | unary op operand t ih => rw [removed_unary, Expr.choices_unary, ih]
  | binary op left right t ihl ihr =>
    rw [removed_binary, Expr.choices_binary, List.forall_mem_append, ← ihl, ← ihr]
    omega
  | call m args t ih =>
    rw [removed_call, Expr.choices_call, List.forall_mem_flatMap,
      List.sum_eq_zero_iff_forall_eq_nat, List.forall_mem_map]
    exact forall₂_congr ih
  | callOn receiver m args t ihr ih =>
    rw [removed_callOn, Expr.choices_callOn, List.forall_mem_append, List.forall_mem_flatMap,
      Nat.add_eq_zero_iff, List.sum_eq_zero_iff_forall_eq_nat, List.forall_mem_map, ihr]
    exact and_congr_right (fun _ => forall₂_congr ih)
  | cond test ifTrue ifFalse t iha ihb ihc =>
    rw [Expr.choices_cond, List.forall_mem_cons, List.forall_mem_append, List.forall_mem_append,
      ← iha, ← ihb, ← ihc]
    cases hg : s.isGuard (.cond test ifTrue ifFalse t) with
    | true =>
      have hpos : 0 < s.removed false (.cond test ifTrue ifFalse t) := removed_pos_of_isGuard hg
      simp only [Bool.true_eq_false, false_and, iff_false]
      omega
    | false =>
      rw [removed_cond (guard?_eq_none hg) (by simp)]
      simp only [true_and]
      omega

end GuardErasure.Shape
