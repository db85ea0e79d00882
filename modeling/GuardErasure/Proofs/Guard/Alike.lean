import GuardErasure.Proofs.Guard.Swept

namespace GuardErasure

/-!
# Shapes that match alike

The pass asks a shape for nothing but its matches:

* `Shape.isGuard_congr`, `Shape.erase_congr` — shapes with the same matches find the same guards and
  leave the same tree;
* `Shape.match?_method_of_member` — no two branches match both basic shapes;
* `Shape.isGuard_both` — so the guards of both shapes are those of the one and those of the other;
* `Shape.change_sweep_inside_congr` — inside a guard only guards that leave an owner tell shapes
  apart, so that there the member shape and both shapes answer alike: `Shape.swept_inside_both`.
-/

/-- What becomes of an operation inside a guard depends on what becomes of its operands. -/
theorem Sweep.change_inBinary_congr {op : BinOp} {left right : Expr} {l l' r r' : Sweep}
    (hl : l.change = l'.change) (hr : r.change = r'.change) :
    (Sweep.inBinary op left right l r).change = (Sweep.inBinary op left right l' r').change := by
  obtain ⟨c, lnotes⟩ := l
  obtain ⟨d, rnotes⟩ := r
  subst hl hr
  simp only [Sweep.inBinary]
  split
  · rfl
  · rfl
  · rw [apply_ite Sweep.change, apply_ite Sweep.change, apply_ite Sweep.change,
      apply_ite Sweep.change]

namespace Shape

variable {s s' : Shape}

/-! ### Guards -/

theorem guard?_congr {test ifTrue ifFalse : Expr}
    (h : s.match? ifTrue ifFalse = s'.match? ifTrue ifFalse) :
    s.guard? test ifTrue ifFalse = s'.guard? test ifTrue ifFalse := by
  rw [guard?, guard?, h]

/-- Shapes with the same matches have the same guards. -/
theorem isGuard_congr (h : ∀ t f, s.match? t f = s'.match? t f) (e : Expr) :
    s.isGuard e = s'.isGuard e := by
  cases e with
  | cond test ifTrue ifFalse t => exact congrArg Option.isSome (guard?_congr (h ifTrue ifFalse))
  | _ => rfl

theorem guard?_eq_none_of_match? {test ifTrue ifFalse : Expr}
    (h : s.match? ifTrue ifFalse = none) : s.guard? test ifTrue ifFalse = none := by
  rw [guard?, h]
  cases test.nullChecked? <;> rfl

/-- A use that is a member read is no call. -/
theorem match?_method_of_member {ifTrue ifFalse : Expr} {u : Use}
    (h : Shape.member.match? ifTrue ifFalse = some u) :
    Shape.method.match? ifTrue ifFalse = none := by
  cases ifFalse with
  | member owner n t => exact ite_self none
  | _ => simp [match?, operand?, memberOperand?] at h

/-- The guards of both basic shapes are those of the one and those of the other. -/
theorem isGuard_both (e : Expr) :
    Shape.both.isGuard e = (Shape.member.isGuard e || Shape.method.isGuard e) := by
  cases e with
  | cond test ifTrue ifFalse t =>
    have hor : Shape.both.match? ifTrue ifFalse
        = (Shape.member.match? ifTrue ifFalse).or (Shape.method.match? ifTrue ifFalse) := rfl
    simp only [isGuard]
    cases hm : Shape.member.match? ifTrue ifFalse with
    | none =>
      rw [hm, Option.none_or] at hor
      rw [guard?_congr hor, guard?_eq_none_of_match? hm]
      rfl
    | some u =>
      rw [hm, Option.some_or, ← hm] at hor
      rw [guard?_congr hor, guard?_eq_none_of_match? (match?_method_of_member hm),
        Option.isSome_none, Bool.or_false]
  | _ => rfl

/-! ### The pass -/

theorem sweepArgs_congr {inside : Bool} {args : List Expr}
    (h : ∀ a ∈ args, (s.sweep inside a).change = (s'.sweep inside a).change) :
    (s.sweepArgs inside args).1 = (s'.sweepArgs inside args).1 := by
  induction args with
  | nil => rfl
  | cons a as ih =>
    have ha : (s.sweep inside a).change = (s'.sweep inside a).change := h a (by simp)
    have has := ih (fun b hb => h b (by simp [hb]))
    show Change.consArg a (s.sweep inside a).change as (s.sweepArgs inside as).1
      = Change.consArg a (s'.sweep inside a).change as (s'.sweepArgs inside as).1
    rw [ha, has]

/-- Shapes with the same matches answer alike at every node. -/
theorem change_sweep_congr (h : ∀ t f, s.match? t f = s'.match? t f) (inside : Bool) (e : Expr) :
    (s.sweep inside e).change = (s'.sweep inside e).change := by
  induction inside, e using s.inductSwept with
  | leaf _ e he =>
    cases e with
    | const | param | root | source | foreign => rfl
    | _ => cases he
  | member _ owner n t ih => exact congrArg (Change.inParent · (.member · n t)) ih
  | lambda _ params body ih => exact congrArg (Change.inParent · (.lambda params ·)) ih
  | call _ m args t ih => exact congrArg (Change.inCall m t) (sweepArgs_congr ih)
  | callOn inside receiver m args t ihr ih =>
    show Change.inCallOn receiver m args t (s.sweep inside receiver).change _ = _
    rw [ihr, sweepArgs_congr ih]
    rfl
  | unary _ op operand t hu ih =>
    rw [sweep_unary, sweep_unary, if_neg hu, if_neg hu]
    exact congrArg (Change.inParent · (.unary op · t)) ih
  | stripped operand t ht ih =>
    rw [sweep_unary, sweep_unary, if_pos ⟨rfl, rfl, ht⟩, if_pos ⟨rfl, rfl, ht⟩]
    exact congrArg (Change.inPlaceOf operand) ih
  | outside op left right t ihl ihr =>
    show Change.inBinary op left right (s.sweep false left).change (s.sweep false right).change = _
    rw [ihl, ihr]
    rfl
  | leftDropped op left right t _ ihl ihr => exact Sweep.change_inBinary_congr ihl ihr
  | rightDropped op left right t _ _ ihl ihr => exact Sweep.change_inBinary_congr ihl ihr
  | companion op left right t _ _ _ ihl ihr => exact Sweep.change_inBinary_congr ihl ihr
  | bothLeft op left right t _ _ _ ihl ihr => exact Sweep.change_inBinary_congr ihl ihr
  | ownerGuard _ test ifTrue owner u t path hg ih =>
    rw [sweep_cond, sweep_cond, ← guard?_congr (h ifTrue _), hg]
    exact congrArg (Change.inPlaceOf owner) ih
  | wholeGuard _ test ifTrue ifFalse t path hg ih =>
    rw [sweep_cond, sweep_cond, ← guard?_congr (h ifTrue ifFalse), hg]
    exact congrArg (Change.inPlaceOf ifFalse) ih
  | collapsed test ifTrue ifFalse t hg hnull ih =>
    rw [sweep_cond, sweep_cond, ← guard?_congr (h ifTrue ifFalse), hg]
    simp only [hnull, and_self, if_true]
    exact congrArg (Change.inPlaceOf ifFalse) ih
  | cond _ test ifTrue ifFalse t hg hkeep iha ihb ihc =>
    rw [sweep_cond, sweep_cond, ← guard?_congr (h ifTrue ifFalse), hg]
    simp only [if_neg hkeep, iha, ihb, ihc]

/-- Shapes with the same matches leave the same tree. -/
theorem erase_congr (h : ∀ t f, s.match? t f = s'.match? t f) (e : Expr) :
    s.erase e = s'.erase e :=
  congrArg (Change.result e) (change_sweep_congr h false e)

/-! ### Inside a guard -/

/-- Inside a guard a choice on null of which no owner is left gives way to its second branch, guard
    or not. -/
theorem change_sweep_nullChoice {test ifTrue ifFalse : Expr} {t : Ty}
    (hnull : test.isNullCheck = true)
    (howner : ∀ path, s.guard? test ifTrue ifFalse ≠ some (path, .owner)) :
    (s.sweep true (.cond test ifTrue ifFalse t)).change
      = (s.sweep true ifFalse).change.inPlaceOf ifFalse := by
  rw [sweep_cond]
  cases hg : s.guard? test ifTrue ifFalse with
  | none => exact congrArg Sweep.change (if_pos ⟨rfl, hnull⟩)
  | some g =>
    obtain ⟨path, part⟩ := g
    cases part with
    | whole => rfl
    | owner => exact absurd hg (howner path)

/-- So shapes answer alike inside a guard as soon as they find the same guards that leave an owner. -/
theorem change_sweep_inside_congr
    (h : ∀ test t f path, s.guard? test t f = some (path, .owner)
      ↔ s'.guard? test t f = some (path, .owner)) (e : Expr) :
    (s.sweep true e).change = (s'.sweep true e).change := by
  induction e using s.inductInside with
  | leaf e he =>
    cases e with
    | const | param | root | source | foreign => rfl
    | _ => cases he
  | member owner n t ih => exact congrArg (Change.inParent · (.member · n t)) ih
  | lambda params body ih => exact congrArg (Change.inParent · (.lambda params ·)) ih
  | call m args t ih => exact congrArg (Change.inCall m t) (sweepArgs_congr ih)
  | callOn receiver m args t ihr ih =>
    show Change.inCallOn receiver m args t (s.sweep true receiver).change _ = _
    rw [ihr, sweepArgs_congr ih]
    rfl
  | unary op operand t hu ih =>
    have hkeep : ¬(true = true ∧ op = .convert ∧ t.isOptionBool = true) := fun h => hu h.2
    rw [sweep_unary, sweep_unary, if_neg hkeep, if_neg hkeep]
    exact congrArg (Change.inParent · (.unary op · t)) ih
  | stripped operand t ht ih =>
    rw [sweep_unary, sweep_unary, if_pos ⟨rfl, rfl, ht⟩, if_pos ⟨rfl, rfl, ht⟩]
    exact congrArg (Change.inPlaceOf operand) ih
  | leftDropped op left right t _ ihl ihr => exact Sweep.change_inBinary_congr ihl ihr
  | rightDropped op left right t _ _ ihl ihr => exact Sweep.change_inBinary_congr ihl ihr
  | companion op left right t _ _ _ ihl ihr => exact Sweep.change_inBinary_congr ihl ihr
  | bothLeft op left right t _ _ _ ihl ihr => exact Sweep.change_inBinary_congr ihl ihr
  | ownerGuard test ifTrue owner u t path hg ih =>
    rw [sweep_cond, sweep_cond, hg, (h _ _ _ _).mp hg]
    exact congrArg (Change.inPlaceOf owner) ih
  | wholeGuard test ifTrue ifFalse t path hg ih =>
    have hnull := isNullCheck_of_guard? hg
    have howner : ∀ path', s.guard? test ifTrue ifFalse ≠ some (path', .owner) := by
      intro path'
      rw [hg]
      simp
    rw [change_sweep_nullChoice hnull howner,
      change_sweep_nullChoice hnull (fun path' => mt (h _ _ _ _).mpr (howner path')), ih]
  | collapsed test ifTrue ifFalse t hg hnull ih =>
    have howner : ∀ path', s.guard? test ifTrue ifFalse ≠ some (path', .owner) := by
      intro path'
      rw [hg]
      simp
    rw [change_sweep_nullChoice hnull howner,
      change_sweep_nullChoice hnull (fun path' => mt (h _ _ _ _).mpr (howner path')), ih]
  | cond test ifTrue ifFalse t hg hnull iha ihb ihc =>
    -- no shape finds a guard where the test is not for null
    have hnone : s'.guard? test ifTrue ifFalse = none := by
      cases hg' : s'.guard? test ifTrue ifFalse with
      | none => rfl
      | some g => exact absurd (isNullCheck_of_guard? hg') (Bool.eq_false_iff.mp hnull)
    rw [sweep_cond, sweep_cond, hg, hnone]
    simp only [hnull, Bool.false_eq_true, and_false, if_false, iha, ihb, ihc]

/-- The guards that leave an owner are member guards. -/
theorem guard?_both_owner {test ifTrue ifFalse path : Expr} :
    Shape.member.guard? test ifTrue ifFalse = some (path, .owner)
      ↔ Shape.both.guard? test ifTrue ifFalse = some (path, .owner) := by
  have hor : Shape.both.match? ifTrue ifFalse
      = (Shape.member.match? ifTrue ifFalse).or (Shape.method.match? ifTrue ifFalse) := rfl
  cases hm : Shape.member.match? ifTrue ifFalse with
  | some u =>
    rw [hm, Option.some_or, ← hm] at hor
    rw [guard?_congr hor]
  | none =>
    rw [guard?_eq_none_of_match? hm]
    refine iff_of_false (by simp) ?_
    intro hboth
    -- what is left would be the owner in a read, and a read is no call
    obtain ⟨owner, t, rfl⟩ := guard?_owner hboth
    have hmethod : Shape.method.match? ifTrue (.member owner .wrappedValue t) = none := ite_self none
    rw [hm, hmethod, Option.none_or] at hor
    rw [guard?_eq_none_of_match? hor] at hboth
    cases hboth

/-- **Inside a guard** it makes no difference whether method guards are looked for as well. -/
theorem swept_inside_both (e : Expr) : Shape.both.swept true e = Shape.member.swept true e :=
  congrArg (Change.result e)
    (change_sweep_inside_congr (fun _ _ _ _ => guard?_both_owner) e).symm

end Shape

end GuardErasure
