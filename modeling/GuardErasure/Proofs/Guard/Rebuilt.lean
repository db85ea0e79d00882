import GuardErasure.Proofs.Expr.Identity
import GuardErasure.Proofs.Guard.Kept

namespace GuardErasure

/-!
# When the pass rebuilds a node

The pass answers that a node stays, or gives the tree that takes its place.  The two answers never
overlap, since whatever the pass does to a tree makes it smaller:

* `Shape.sweep_eq_keep_of_size_le`, `Shape.sweep_eq_keep_iff` — a tree that is left as it was is one
  of which the pass says that it stays, so that no node is replaced by itself;
* `BinOp.newTy` — the type of a binary operation around new operands;
* `Shape.swept_outside_eq`, `Shape.swept_inside_eq` — so a binary operation keeps the type that is
  stored in it exactly as long as its operands are left as they were.
-/

namespace Change

theorem isChange_eq_false_iff {c : Change} : c.isChange = false ↔ c = .keep := by
  cases c <;> simp [isChange]

end Change

/-- The type of a binary operation of type `t` around new operands: the operation is typed anew,
    unless the operands are the old ones. -/
def BinOp.newTy (op : BinOp) (left right : Expr) (t : Ty) (left' right' : Expr) : Ty :=
  if left' = left ∧ right' = right then t else op.resultTy left'.ty right'.ty

namespace Shape

variable {s : Shape} {inside : Bool}

/-! ### Nothing is replaced by itself -/

/-- The pass never makes a tree larger. -/
theorem size_swept_le (s : Shape) (inside : Bool) (e : Expr) :
    (s.swept inside e).size ≤ e.size := by
  have hsize : (s.swept inside e).size + 5 * s.removed inside e ≤ e.size :=
    size_swept_add_removed_le s inside e
  omega

/-- Arguments that have together the size that they had have it each. -/
theorem size_le_of_sizeOfAll_le {args : List Expr}
    (h : Expr.sizeOfAll args ≤ Expr.sizeOfAll (args.map (s.swept inside))) :
    ∀ a ∈ args, a.size ≤ (s.swept inside a).size := by
  induction args with
  | nil => exact List.forall_mem_nil _
  | cons a as ih =>
    have ha : (s.swept inside a).size ≤ a.size := size_swept_le s inside a
    have has : Expr.sizeOfAll (as.map (s.swept inside)) + 5 * (as.map (s.removed inside)).sum
        ≤ Expr.sizeOfAll as :=
      sizeOfAll_map_add_removed_le (fun b _ => size_swept_add_removed_le s inside b)
    rw [List.map_cons, Expr.sizeOfAll, Expr.sizeOfAll] at h
    refine List.forall_mem_cons.mpr ⟨?_, ih ?_⟩
    · omega
    · omega

/-- **A tree that does not get smaller stays.** -/
theorem sweep_eq_keep_of_size_le {e : Expr} (h : e.size ≤ (s.swept inside e).size) :
    (s.sweep inside e).change = .keep := by
  -- no part of such a tree gets smaller, and a node that gives way to its part does
  induction inside, e using s.inductSwept with
  | leaf _ e he =>
    cases e with
    | const | param | root | source | foreign => rfl
    | _ => cases he
  | member inside owner n t ih =>
    rw [swept_member, Expr.size_member, Expr.size_member] at h
    have howner : (s.sweep inside owner).change = .keep := ih (by omega)
    show Change.inParent (s.sweep inside owner).change _ = _
    rw [howner]
    rfl
  | lambda inside params body ih =>
    rw [swept_lambda, Expr.size_lambda, Expr.size_lambda] at h
    have hbody : (s.sweep inside body).change = .keep := ih (by omega)
    show Change.inParent (s.sweep inside body).change _ = _
    rw [hbody]
    rfl
  | unary inside op operand t hu ih =>
    rw [swept_unary hu, Expr.size_unary, Expr.size_unary] at h
    have hoperand : (s.sweep inside operand).change = .keep := ih (by omega)
    rw [sweep_unary, if_neg hu]
    show Change.inParent (s.sweep inside operand).change _ = _
    rw [hoperand]
    rfl
  | call inside m args t ih =>
    rw [swept_call, Expr.size_call, Expr.size_call] at h
    have hargs : ∀ a ∈ args, (s.sweep inside a).change = .keep :=
      fun a ha => ih a ha (size_le_of_sizeOfAll_le (by omega) a ha)
    show Change.inCall m t (s.sweepArgs inside args).1 = _
    rw [sweepArgs_eq_none hargs]
    rfl
  | callOn inside receiver m args t ihr ih =>
    have hle : (s.swept inside receiver).size ≤ receiver.size := size_swept_le s inside receiver
    have hargsle : Expr.sizeOfAll (args.map (s.swept inside))
        + 5 * (args.map (s.removed inside)).sum ≤ Expr.sizeOfAll args :=
      sizeOfAll_map_add_removed_le (fun b _ => size_swept_add_removed_le s inside b)
    rw [swept_callOn, Expr.size_callOn, Expr.size_callOn] at h
    have hreceiver : (s.sweep inside receiver).change = .keep := ihr (by omega)
    have hargs : ∀ a ∈ args, (s.sweep inside a).change = .keep :=
      fun a ha => ih a ha (size_le_of_sizeOfAll_le (by omega) a ha)
    show Change.inCallOn receiver m args t (s.sweep inside receiver).change
      (s.sweepArgs inside args).1 = _
    rw [hreceiver, sweepArgs_eq_none hargs]
    rfl
  | stripped operand t ht ih =>
    have hle : (s.swept true operand).size ≤ operand.size := size_swept_le s true operand
    rw [(givesWay_stripped ht).1, Expr.size_unary] at h
    omega
  | outside op left right t ihl ihr =>
    have hlle : (s.swept false left).size ≤ left.size := size_swept_le s false left
    have hrle : (s.swept false right).size ≤ right.size := size_swept_le s false right
    obtain ⟨t', ht'⟩ := swept_outside (s := s) op left right t
    rw [ht', Expr.size_binary, Expr.size_binary] at h
    have hleft : (s.sweep false left).change = .keep := ihl (by omega)
    have hright : (s.sweep false right).change = .keep := ihr (by omega)
    show Change.inBinary op left right (s.sweep false left).change (s.sweep false right).change = _
    rw [hleft, hright]
    rfl
  | leftDropped op left right t hl =>
    have hle : (s.swept true right).size ≤ right.size := size_swept_le s true right
    rw [(givesWay_leftDropped hl).1, Expr.size_binary] at h
    omega
  | rightDropped op left right t hl hr =>
    have hle : (s.swept true left).size ≤ left.size := size_swept_le s true left
    rw [(givesWay_rightDropped hl hr).1, Expr.size_binary] at h
    omega
  | companion op left right t hl hr hc =>
    have hleft : 0 < left.size := Expr.size_pos left
    rw [swept_of_drops (drops_companion hl hr hc), Expr.size_binary, Expr.trueLiteral,
      Expr.size_const] at h
    omega
  | bothLeft op left right t hl hr hc ihl ihr =>
    have hlle : (s.swept true left).size ≤ left.size := size_swept_le s true left
    have hrle : (s.swept true right).size ≤ right.size := size_swept_le s true right
    obtain ⟨t', ht'⟩ := swept_inside (t := t) hl hr hc
    rw [ht', Expr.size_binary, Expr.size_binary] at h
    have hleft : (s.sweep true left).change = .keep := ihl (by omega)
    have hright : (s.sweep true right).change = .keep := ihr (by omega)
    rw [sweep_bothLeft hl hr, if_neg (by simp [hc]), hleft, hright]
    rfl
  | ownerGuard inside test ifTrue owner u t path hg ih =>
    have hle : (s.swept true owner).size ≤ owner.size := size_swept_le s true owner
    rw [(givesWay_ownerGuard hg).1, Expr.size_cond, Expr.size_member] at h
    omega
  | wholeGuard inside test ifTrue ifFalse t path hg ih =>
    have hle : (s.swept true ifFalse).size ≤ ifFalse.size := size_swept_le s true ifFalse
    rw [(givesWay_wholeGuard hg).1, Expr.size_cond] at h
    omega
  | collapsed test ifTrue ifFalse t hg hnull ih =>
    have hle : (s.swept true ifFalse).size ≤ ifFalse.size := size_swept_le s true ifFalse
    rw [(givesWay_collapsed hg hnull).1, Expr.size_cond] at h
    omega
  | cond inside test ifTrue ifFalse t hg hkeep iha ihb ihc =>
    have hale : (s.swept inside test).size ≤ test.size := size_swept_le s inside test
    have hble : (s.swept inside ifTrue).size ≤ ifTrue.size := size_swept_le s inside ifTrue
    have hcle : (s.swept inside ifFalse).size ≤ ifFalse.size := size_swept_le s inside ifFalse
    rw [swept_cond hg hkeep, Expr.size_cond, Expr.size_cond] at h
    have htest : (s.sweep inside test).change = .keep := iha (by omega)
    have htrue : (s.sweep inside ifTrue).change = .keep := ihb (by omega)
    have hfalse : (s.sweep inside ifFalse).change = .keep := ihc (by omega)
    rw [sweep_cond, hg]
    refine (congrArg Sweep.change (if_neg hkeep)).trans ?_
    show Change.inCond test ifTrue ifFalse t (s.sweep inside test).change
      (s.sweep inside ifTrue).change (s.sweep inside ifFalse).change = _
    rw [htest, htrue, hfalse]
    rfl

/-- **A node stays** exactly if the pass leaves the tree that was there. -/
theorem sweep_eq_keep_iff (s : Shape) (inside : Bool) (e : Expr) :
    (s.sweep inside e).change = .keep ↔ s.swept inside e = e := by
  constructor
  · intro h
    show (s.sweep inside e).change.result e = e
    rw [h]
    rfl
  · intro h
    exact sweep_eq_keep_of_size_le (Nat.le_of_eq (congrArg Expr.size h.symm))

/-- No node is replaced by itself. -/
theorem change_sweep_ne_replace_self (s : Shape) (inside : Bool) (e : Expr) :
    (s.sweep inside e).change ≠ .replace e := by
  intro h
  have hself : s.swept inside e = e := congrArg (Change.result e) h
  rw [(sweep_eq_keep_iff s inside e).mpr hself] at h
  cases h

/-! ### The type of a rebuilt operation -/

/-- Outside of guards a binary operation stays one, of the type that its operands give it if either
    of them is another one. -/
theorem swept_outside_eq (op : BinOp) (left right : Expr) (t : Ty) :
    s.swept false (.binary op left right t)
      = .binary op (s.swept false left) (s.swept false right)
        (op.newTy left right t (s.swept false left) (s.swept false right)) := by
  show (Change.inBinary op left right (s.sweep false left).change
    (s.sweep false right).change).result _ = _
  by_cases h : s.swept false left = left ∧ s.swept false right = right
  · have hleft := (sweep_eq_keep_iff s false left).mpr h.1
    have hright := (sweep_eq_keep_iff s false right).mpr h.2
    rw [hleft, hright, BinOp.newTy, if_pos h, h.1, h.2]
    rfl
  · rw [Change.result_inBinary_of_change, BinOp.newTy, if_neg h]
    · rfl
    · rwa [sweep_eq_keep_iff, sweep_eq_keep_iff]

/-- The same of an operation inside a guard of which both operands are left and which is no test for
    not-null. -/
theorem swept_inside_eq {op : BinOp} {left right : Expr} (hl : s.drops true left = false)
    (hr : s.drops true right = false) (hc : s.isCompanion op left right = false) (t : Ty) :
    s.swept true (.binary op left right t)
      = .binary op (s.swept true left) (s.swept true right)
        (op.newTy left right t (s.swept true left) (s.swept true right)) := by
  show (s.sweep true (.binary op left right t)).change.result _ = _
  rw [sweep_bothLeft hl hr, if_neg (by simp [hc])]
  by_cases h : s.swept true left = left ∧ s.swept true right = right
  · have hleft := (sweep_eq_keep_iff s true left).mpr h.1
    have hright := (sweep_eq_keep_iff s true right).mpr h.2
    rw [hleft, hright, BinOp.newTy, if_pos h, h.1, h.2]
    rfl
  · have hchange : (s.sweep true left).change.isChange = true
        ∨ (s.sweep true right).change.isChange = true := by
      refine Decidable.byContradiction (fun hnone => h ?_)
      rw [not_or, Bool.not_eq_true, Bool.not_eq_true, Change.isChange_eq_false_iff,
        Change.isChange_eq_false_iff, sweep_eq_keep_iff, sweep_eq_keep_iff] at hnone
      exact hnone
    rw [if_pos hchange, BinOp.newTy, if_neg h]
    rfl

end Shape

end GuardErasure
