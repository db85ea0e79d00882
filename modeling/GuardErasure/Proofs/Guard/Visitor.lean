import GuardErasure.Proofs.Guard.Rebuilt

namespace GuardErasure

/-!
# The visitor behind the pass

What the pass is to compute is said more simply than it computes it: visit a tree, and give back the
tree that is left, or nothing.  The pass has a third answer, that a node stays, so that whatever
stays need not be built again.

* `Shape.visit` — the visitor, by recursion over the tree;
* `Shape.left?` — what the answer of the pass leaves, and `Shape.visit_eq_left?`: it is what the
  visitor gives back;
* `Eraser.erase_eq_visit`, `Eraser.sweep_eq_visit` — so it is what a run of the pass leaves, and it
  tells when the pass gives each of its three answers.
-/

/-- What is left of a use is no larger than the use. -/
theorem Part.sizeOf_of_le (part : Part) (e : Expr) : sizeOf (part.of e) ≤ sizeOf e := by
  unfold of
  split
  · rw [Expr.member.sizeOf_spec]
    omega
  · exact Nat.le_refl _

namespace Shape

/-! ### The visitor -/

/-- A visited part where its parent cannot do without one: `true` stands in for an absent part. -/
def present (visited : Option Expr) : Expr := visited.getD .trueLiteral

/-- Visit a tree, inside a guard or not: the tree that is left, or none if the tree is absent. -/
def visit (s : Shape) (inside : Bool) : Expr → Option Expr
  | .member owner name t => some (.member (present (visit s inside owner)) name t)
  | .callOn receiver m args t =>
    some (.callOn (present (visit s inside receiver)) m
      (args.map (fun a => present (visit s inside a))) t)
  | .call m args t => some (.call m (args.map (fun a => present (visit s inside a))) t)
  | .unary op operand t =>
    if inside ∧ op = .convert ∧ t.isOptionBool then visit s inside operand
    else some (.unary op (present (visit s inside operand)) t)
  | .binary op left right t =>
    let l := visit s inside left
    let r := visit s inside right
    if inside then
      match l, r with
      | none, r => r
      | l, none => l
      | some left', some right' =>
        if op = .notEqual ∧ (left'.isNullLiteral ∨ right'.isNullLiteral) then none
        else some (.binary op left' right' (op.newTy left right t left' right'))
    else
      some (.binary op (present l) (present r) (op.newTy left right t (present l) (present r)))
  | .cond test ifTrue ifFalse t =>
    match s.guard? test ifTrue ifFalse with
    | some (_, part) => visit s true (part.of ifFalse)
    | none =>
      if inside ∧ test.isNullCheck then visit s inside ifFalse
      else
        some (.cond (present (visit s inside test)) (present (visit s inside ifTrue))
          (present (visit s inside ifFalse)) t)
  | .lambda params body => some (.lambda params (present (visit s inside body)))
  | e => some e
termination_by e => sizeOf e
decreasing_by
  -- what is left of a guard's use is a part of a part, or all of the part
  all_goals first
    | decreasing_tactic
    | have hpart : sizeOf (part.of ifFalse) ≤ sizeOf ifFalse := Part.sizeOf_of_le part ifFalse
      decreasing_tactic

variable {s : Shape} {inside : Bool}

/-- The visitor at a guard goes on with what is left of the use. -/
theorem visit_guard {test ifTrue ifFalse path : Expr} {part : Part}
    (h : s.guard? test ifTrue ifFalse = some (path, part)) (t : Ty) :
    s.visit inside (.cond test ifTrue ifFalse t) = s.visit true (part.of ifFalse) := by
  rw [visit, h]

/-- The visitor at any other choice. -/
theorem visit_cond {test ifTrue ifFalse : Expr}
    (h : s.guard? test ifTrue ifFalse = none) (t : Ty) :
    s.visit inside (.cond test ifTrue ifFalse t)
      = if inside ∧ test.isNullCheck then s.visit inside ifFalse
        else some (.cond (present (s.visit inside test)) (present (s.visit inside ifTrue))
          (present (s.visit inside ifFalse)) t) := by
  rw [visit, h]

/-! ### What the pass leaves -/

/-- The tree that the answer of the pass leaves, if it leaves one. -/
def left? (s : Shape) (inside : Bool) (e : Expr) : Option Expr :=
  (s.sweep inside e).change.left? e

/-- Where `true` stands in for a dropped tree this is the tree that the pass leaves. -/
theorem present_left? (e : Expr) : present (s.left? inside e) = s.swept inside e := rfl

theorem left?_of_drops {e : Expr} (h : s.drops inside e = true) : s.left? inside e = none :=
  Change.left?_of_isDrop h e

theorem left?_of_not_drops {e : Expr} (h : s.drops inside e = false) :
    s.left? inside e = some (s.swept inside e) := Change.left?_of_not_isDrop h e

/-- A node that gives way leaves what the part leaves for which it does. -/
theorem left?_of_givesWay {e part : Expr} (h : s.GivesWay inside e part) :
    s.left? inside e = s.left? true part := by
  cases hd : s.drops true part with
  | true => rw [left?_of_drops (h.2.trans hd), left?_of_drops hd]
  | false => rw [left?_of_not_drops (h.2.trans hd), left?_of_not_drops hd, h.1]

/-- **The visitor gives back what the pass leaves.** -/
theorem visit_eq_left? (s : Shape) (inside : Bool) (e : Expr) :
    s.visit inside e = s.left? inside e := by
  -- a node that is built from its visited parts is never dropped, and one that gives way leaves just
  -- what the visitor goes on with
  induction inside, e using s.inductSwept with
  | leaf _ e he =>
    cases e with
    | const | param | root | source | foreign =>
      rw [visit, left?_of_not_drops (drops_leaf he), swept_leaf he]
      all_goals simp
    | _ => cases he
  | member inside owner n t ih =>
    rw [visit, ih, present_left?, left?_of_not_drops (drops_member owner n t), swept_member]
  | lambda inside params body ih =>
    rw [visit, ih, present_left?, left?_of_not_drops (drops_lambda params body), swept_lambda]
  | call inside m args t ih =>
    have hargs : args.map (fun a => present (s.visit inside a)) = args.map (s.swept inside) :=
      List.map_congr_left (fun a ha => congrArg present (ih a ha))
    rw [visit, hargs, left?_of_not_drops (drops_call m args t), swept_call]
  | callOn inside receiver m args t ihr ih =>
    have hargs : args.map (fun a => present (s.visit inside a)) = args.map (s.swept inside) :=
      List.map_congr_left (fun a ha => congrArg present (ih a ha))
    rw [visit, ihr, present_left?, hargs, left?_of_not_drops (drops_callOn receiver m args t),
      swept_callOn]
  | unary inside op operand t hu ih =>
    rw [visit, if_neg hu, ih, present_left?, left?_of_not_drops (drops_unary hu), swept_unary hu]
  | stripped operand t ht ih =>
    rw [visit, if_pos ⟨rfl, rfl, ht⟩, ih, left?_of_givesWay (givesWay_stripped ht)]
  | outside op left right t ihl ihr =>
    rw [visit, ihl, ihr, left?_of_not_drops (drops_outside op left right t), swept_outside_eq]
    rfl
  | leftDropped op left right t hl ihl ihr =>
    rw [visit, ihl, ihr, left?_of_givesWay (givesWay_leftDropped hl), left?_of_drops hl]
    rfl
  | rightDropped op left right t hl hr ihl ihr =>
    rw [visit, ihl, ihr, left?_of_givesWay (givesWay_rightDropped hl hr), left?_of_not_drops hl,
      left?_of_drops hr]
    rfl
  | companion op left right t hl hr hc ihl ihr =>
    rw [visit, ihl, ihr, left?_of_not_drops hl, left?_of_not_drops hr,
      left?_of_drops (drops_companion hl hr hc)]
    exact if_pos (isCompanion_iff.mp hc)
  | bothLeft op left right t hl hr hc ihl ihr =>
    have hkeep := mt isCompanion_iff.mpr (Bool.eq_false_iff.mp hc)
    rw [visit, ihl, ihr, left?_of_not_drops hl, left?_of_not_drops hr,
      left?_of_not_drops (drops_inside hl hr hc), swept_inside_eq hl hr hc]
    exact if_neg hkeep
  | ownerGuard inside test ifTrue owner u t path hg ih =>
    rw [visit_guard hg, left?_of_givesWay (givesWay_ownerGuard hg)]
    exact ih
  | wholeGuard inside test ifTrue ifFalse t path hg ih =>
    rw [visit_guard hg, left?_of_givesWay (givesWay_wholeGuard hg)]
    exact ih
  | collapsed test ifTrue ifFalse t hg hnull ih =>
    rw [visit_cond hg, if_pos ⟨rfl, hnull⟩, ih, left?_of_givesWay (givesWay_collapsed hg hnull)]
  | cond inside test ifTrue ifFalse t hg hkeep iha ihb ihc =>
    rw [visit_cond hg, if_neg hkeep, iha, ihb, ihc, left?_of_not_drops (drops_cond hg hkeep),
      swept_cond hg hkeep]
    rfl

end Shape

/-! ### The three answers -/

namespace Change

variable {c : Change} {old x : Expr}

theorem eq_drop_iff : c = .drop ↔ c.left? old = none := by
  cases c <;> simp [left?]

/-- What is left is the old node if the node stays, unless it is replaced by itself. -/
theorem eq_keep_iff (h : c ≠ .replace old) : c = .keep ↔ c.left? old = some old := by
  cases c with
  | keep => simp [left?]
  | drop => simp [left?]
  | replace y =>
    have hne : y ≠ old := fun heq => h (congrArg replace heq)
    simp [left?, hne]

theorem eq_replace_iff (h : c ≠ .replace old) :
    c = .replace x ↔ c.left? old = some x ∧ x ≠ old := by
  constructor
  · rintro rfl
    exact ⟨rfl, fun heq => h (congrArg replace heq)⟩
  · rintro ⟨hleft, hne⟩
    cases c with
    | keep => exact absurd (Option.some.inj hleft).symm hne
    | replace y => exact congrArg replace (Option.some.inj hleft)
    | drop => cases hleft

end Change

namespace Eraser

/-- Erasing visits the tree; a tree that is absent altogether leaves `true`. -/
theorem erase_eq_visit (r : Eraser) (e : Expr) :
    (r.erase e).1 = Shape.present (r.shape.visit r.inside e) := by
  rw [Shape.visit_eq_left?]
  rfl

/-- **The three answers are those of the visitor.**  In or outside of a guard the pass says that a
    node stays exactly if the visitor gives that very node back, that `x` takes its place exactly if
    the visitor gives back an `x` that is another tree, and that it is dropped exactly if the visitor
    finds it absent.  Trees are compared node by node here, so that one with a NaN in it is itself. -/
theorem sweep_eq_visit (r : Eraser) (e : Expr) :
    ((r.sweep e).1 = .keep ↔ r.shape.visit r.inside e = some e)
      ∧ (∀ x, (r.sweep e).1 = .replace x ↔ r.shape.visit r.inside e = some x ∧ x ≠ e)
      ∧ ((r.sweep e).1 = .drop ↔ r.shape.visit r.inside e = none) := by
  have hself : (r.sweep e).1 ≠ .replace e := Shape.change_sweep_ne_replace_self r.shape r.inside e
  have hvisit : r.shape.visit r.inside e = (r.sweep e).1.left? e :=
    Shape.visit_eq_left? r.shape r.inside e
  rw [hvisit]
  exact ⟨Change.eq_keep_iff hself, fun _ => Change.eq_replace_iff hself, Change.eq_drop_iff⟩

end Eraser

end GuardErasure
