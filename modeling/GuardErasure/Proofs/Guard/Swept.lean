import GuardErasure.Guard.Erase
import GuardErasure.Proofs.Expr.Tree
import GuardErasure.Proofs.Guard.Answer

namespace GuardErasure

/-!
# What the pass leaves

The pass tells of every node what becomes of it.  Read as a function on trees it is simpler:
it leaves one tree, and it may have dropped the node.

* `Shape.swept`, `Shape.drops` — the tree that is left of a node, and whether the node is
  dropped.  There is one equation for each thing that the pass can do, and no later proof opens
  the pass itself;
* `Shape.guard?_owner`, `Shape.guard?_whole` — what a guard looks like, whatever its shape;
* `Shape.inductSwept` — induction over a tree along the pass, with one case for each thing that
  the pass can do and a hypothesis for each part that it visits; `Shape.inductInside` — the same
  inside a guard.
-/

namespace Shape

variable {s : Shape} {inside : Bool}

/-! ### Guards -/

/-- A use of which the owner is left reads the value of a wrapper. -/
theorem match?_owner {ifTrue ifFalse operand : Expr}
    (h : s.match? ifTrue ifFalse = some ⟨operand, .owner⟩) :
    ∃ t, ifFalse = .member operand .wrappedValue t := by
  induction s with
  | member =>
    simp only [match?, operand?, part] at h
    split at h
    · obtain ⟨o, ho, hu⟩ := Option.map_eq_some_iff.mp h
      have heq : o = operand := congrArg Use.operand hu
      subst heq
      unfold memberOperand? at ho
      split at ho
      · rename_i owner t
        split at ho <;> cases ho
        exact ⟨t, rfl⟩
      · cases ho
    · cases h
  | method =>
    simp only [match?, part] at h
    split at h
    · obtain ⟨o, ho, hu⟩ := Option.map_eq_some_iff.mp h
      cases hu
    · cases h
  | off => simp [match?, isDefault] at h
  | on s ih => exact ih h
  | either a b iha ihb =>
    rw [match?, Option.or_eq_some_iff] at h
    rcases h with h | ⟨_, h⟩
    · exact iha h
    · exact ihb h

/-- A use of which all is left is a call, on the operand or with the operand in front. -/
theorem match?_whole {ifTrue ifFalse operand : Expr}
    (h : s.match? ifTrue ifFalse = some ⟨operand, .whole⟩) :
    methodOperand? ifFalse = some operand := by
  induction s with
  | member =>
    simp only [match?, operand?, part] at h
    split at h
    · obtain ⟨o, ho, hu⟩ := Option.map_eq_some_iff.mp h
      simp [ho] at hu
    · cases h
  | method =>
    simp only [match?, operand?, part] at h
    split at h
    · obtain ⟨o, ho, hu⟩ := Option.map_eq_some_iff.mp h
      cases hu
      exact ho
    · cases h
  | off => simp [match?, isDefault] at h
  | on s ih => exact ih h
  | either a b iha ihb =>
    rw [match?, Option.or_eq_some_iff] at h
    rcases h with h | ⟨_, h⟩
    · exact iha h
    · exact ihb h

/-- The test of a guard compares the path with null, and the use matches. -/
theorem guard?_eq_some {test ifTrue ifFalse path : Expr} {part : Part}
    (h : s.guard? test ifTrue ifFalse = some (path, part)) :
    test.nullChecked? = some path ∧
      ∃ operand, s.match? ifTrue ifFalse = some ⟨operand, part⟩ ∧ (operand == path) = true := by
  unfold guard? at h
  cases hp : test.nullChecked? with
  | none => simp [hp] at h
  | some p =>
    cases hu : s.match? ifTrue ifFalse with
    | none => simp [hp, hu] at h
    | some u =>
      simp only [hp, hu, Option.bind_eq_bind, Option.bind_some, Option.ite_none_right_eq_some,
        Option.some.injEq, Prod.mk.injEq] at h
      obtain ⟨hop, rfl, rfl⟩ := h
      exact ⟨rfl, u.operand, rfl, hop⟩

/-- The test of a guard is a test for null. -/
theorem isNullCheck_of_guard? {test ifTrue ifFalse path : Expr} {part : Part}
    (h : s.guard? test ifTrue ifFalse = some (path, part)) : test.isNullCheck = true := by
  show test.nullChecked?.isSome = true
  rw [(guard?_eq_some h).1]
  rfl

/-- A guard of which the owner is left: `path == null ? _ : owner.Value`. -/
theorem guard?_owner {test ifTrue ifFalse path : Expr}
    (h : s.guard? test ifTrue ifFalse = some (path, .owner)) :
    ∃ owner t, ifFalse = .member owner .wrappedValue t := by
  obtain ⟨_, operand, hu, _⟩ := guard?_eq_some h
  exact ⟨operand, match?_owner hu⟩

/-- A guard of which all of the use is left: the use is a call. -/
theorem guard?_whole {test ifTrue ifFalse path : Expr}
    (h : s.guard? test ifTrue ifFalse = some (path, .whole)) :
    (∃ receiver m args t, ifFalse = .callOn receiver m args t) ∨
      ∃ m args t, ifFalse = .call m args t := by
  obtain ⟨_, operand, hu, _⟩ := guard?_eq_some h
  have hf := match?_whole hu
  unfold methodOperand? at hf
  split at hf
  · exact .inl ⟨_, _, _, _, rfl⟩
  · exact .inr ⟨_, _, _, rfl⟩
  · cases hf

/-! ### The tree that is left, node by node -/

/-- The tree that the pass leaves of a tree; `true` if it drops the tree. -/
def swept (s : Shape) (inside : Bool) (e : Expr) : Expr := (s.sweep inside e).change.result e

/-- Does the pass drop the tree? -/
def drops (s : Shape) (inside : Bool) (e : Expr) : Bool := (s.sweep inside e).change.isDrop

/-- Erasing sweeps a tree outside all guards. -/
theorem erase_eq_swept (e : Expr) : s.erase e = s.swept false e := rfl

/-- The pass at a unary operation. -/
theorem sweep_unary (op : UnOp) (operand : Expr) (t : Ty) :
    s.sweep inside (.unary op operand t) =
      if inside ∧ op = .convert ∧ t.isOptionBool then
        (s.sweep inside operand).inPlaceOf operand (.conversionStripped t)
      else (s.sweep inside operand).inParent (.unary op · t) := rfl

/-- The pass at a binary operation inside a guard. -/
theorem sweep_inside (op : BinOp) (left right : Expr) (t : Ty) :
    s.sweep true (.binary op left right t)
      = Sweep.inBinary op left right (s.sweep true left) (s.sweep true right) := rfl

/-- The pass at a choice. -/
theorem sweep_cond (test ifTrue ifFalse : Expr) (t : Ty) :
    s.sweep inside (.cond test ifTrue ifFalse t) =
      match s.guard? test ifTrue ifFalse with
      | some (path, .owner) => s.sweepOwner (.guardRemoved s.name path) ifFalse
      | some (path, .whole) => (s.sweep true ifFalse).inPlaceOf ifFalse (.guardRemoved s.name path)
      | none =>
        if inside ∧ test.isNullCheck then
          (s.sweep inside ifFalse).inPlaceOf ifFalse (.guardCollapsed test)
        else
          ⟨.inCond test ifTrue ifFalse t (s.sweep inside test).change
            (s.sweep inside ifTrue).change (s.sweep inside ifFalse).change,
            (s.sweep inside test).notes ++ (s.sweep inside ifTrue).notes
              ++ (s.sweep inside ifFalse).notes⟩ := rfl

/-- The pass lets the tree give way to `part`, which it sweeps inside a guard. -/
def GivesWay (s : Shape) (inside : Bool) (e part : Expr) : Prop :=
  s.swept inside e = s.swept true part ∧ s.drops inside e = s.drops true part

theorem givesWay_of_change {e part : Expr}
    (h : (s.sweep inside e).change = (s.sweep true part).change.inPlaceOf part) :
    s.GivesWay inside e part := by
  constructor
  · show (s.sweep inside e).change.result e = _
    rw [h, Change.result_inPlaceOf]
    rfl
  · show (s.sweep inside e).change.isDrop = _
    rw [h, Change.isDrop_inPlaceOf]
    rfl

theorem swept_of_drops {e : Expr} (h : s.drops inside e = true) :
    s.swept inside e = .trueLiteral := Change.result_of_isDrop h e

theorem swept_leaf {e : Expr} (h : e.isLeaf = true) : s.swept inside e = e := by
  cases e <;> first | rfl | exact absurd h (by simp [Expr.isLeaf])

theorem drops_leaf {e : Expr} (h : e.isLeaf = true) : s.drops inside e = false := by
  cases e <;> first | rfl | exact absurd h (by simp [Expr.isLeaf])

theorem swept_member (owner : Expr) (n : MemberName) (t : Ty) :
    s.swept inside (.member owner n t) = .member (s.swept inside owner) n t := by
  exact Change.result_inParent (s.sweep inside owner).change (.member · n t) owner

theorem drops_member (owner : Expr) (n : MemberName) (t : Ty) :
    s.drops inside (.member owner n t) = false := by
  exact Change.isDrop_inParent (s.sweep inside owner).change (.member · n t)

theorem swept_lambda (params : List String) (body : Expr) :
    s.swept inside (.lambda params body) = .lambda params (s.swept inside body) := by
  exact Change.result_inParent (s.sweep inside body).change (.lambda params ·) body

theorem drops_lambda (params : List String) (body : Expr) :
    s.drops inside (.lambda params body) = false := by
  exact Change.isDrop_inParent (s.sweep inside body).change (.lambda params ·)

/-- The arguments of a call are swept one by one. -/
theorem getD_sweepArgs (args : List Expr) :
    (s.sweepArgs inside args).1.getD args = args.map (s.swept inside) := by
  induction args with
  | nil => rfl
  | cons a as ih =>
    rw [List.map_cons, ← ih]
    exact Change.getD_consArg a (s.sweep inside a).change as (s.sweepArgs inside as).1

theorem swept_call (m : Method) (args : List Expr) (t : Ty) :
    s.swept inside (.call m args t) = .call m (args.map (s.swept inside)) t := by
  rw [← getD_sweepArgs]
  exact Change.result_inCall m args t (s.sweepArgs inside args).1

theorem drops_call (m : Method) (args : List Expr) (t : Ty) :
    s.drops inside (.call m args t) = false := by
  exact Change.isDrop_inCall m t (s.sweepArgs inside args).1

theorem swept_callOn (receiver : Expr) (m : Method) (args : List Expr) (t : Ty) :
    s.swept inside (.callOn receiver m args t)
      = .callOn (s.swept inside receiver) m (args.map (s.swept inside)) t := by
  rw [← getD_sweepArgs]
  exact Change.result_inCallOn receiver m args t (s.sweep inside receiver).change
    (s.sweepArgs inside args).1

theorem drops_callOn (receiver : Expr) (m : Method) (args : List Expr) (t : Ty) :
    s.drops inside (.callOn receiver m args t) = false := by
  exact Change.isDrop_inCallOn receiver m args t (s.sweep inside receiver).change
    (s.sweepArgs inside args).1

theorem swept_unary {op : UnOp} {operand : Expr} {t : Ty}
    (h : ¬(inside = true ∧ op = .convert ∧ t.isOptionBool = true)) :
    s.swept inside (.unary op operand t) = .unary op (s.swept inside operand) t := by
  show (s.sweep inside (.unary op operand t)).change.result _ = _
  rw [sweep_unary, if_neg h]
  exact Change.result_inParent _ (.unary op · t) operand

theorem drops_unary {op : UnOp} {operand : Expr} {t : Ty}
    (h : ¬(inside = true ∧ op = .convert ∧ t.isOptionBool = true)) :
    s.drops inside (.unary op operand t) = false := by
  show (s.sweep inside (.unary op operand t)).change.isDrop = _
  rw [sweep_unary, if_neg h]
  exact Change.isDrop_inParent _ _

/-- Inside a guard a conversion to a nullable truth value gives way to its operand. -/
theorem givesWay_stripped {operand : Expr} {t : Ty} (h : t.isOptionBool = true) :
    s.GivesWay true (.unary .convert operand t) operand := by
  apply givesWay_of_change
  rw [sweep_unary, if_pos ⟨rfl, rfl, h⟩]
  rfl

/-! ### Binary operations -/

/-- Is this, with what is left of its operands, a test for not-null? -/
def isCompanion (s : Shape) (op : BinOp) (left right : Expr) : Bool :=
  op == .notEqual &&
    ((s.swept true left).isNullLiteral || (s.swept true right).isNullLiteral)

theorem isCompanion_iff {op : BinOp} {left right : Expr} :
    s.isCompanion op left right = true ↔ op = .notEqual ∧
      ((s.swept true left).isNullLiteral = true ∨ (s.swept true right).isNullLiteral = true) := by
  rw [isCompanion, Bool.and_eq_true, beq_iff_eq, Bool.or_eq_true]

/-- Outside a guard a binary operation stays one. -/
theorem swept_outside (op : BinOp) (left right : Expr) (t : Ty) :
    ∃ t', s.swept false (.binary op left right t)
      = .binary op (s.swept false left) (s.swept false right) t' := by
  exact Change.result_inBinary op left right t (s.sweep false left).change
    (s.sweep false right).change

theorem drops_outside (op : BinOp) (left right : Expr) (t : Ty) :
    s.drops false (.binary op left right t) = false := by
  exact Change.isDrop_inBinary op left right (s.sweep false left).change
    (s.sweep false right).change

section Inside

variable {op : BinOp} {left right : Expr} {t : Ty}

/-- Inside a guard an operation whose left operand is dropped gives way to the right one. -/
theorem givesWay_leftDropped (hl : s.drops true left = true) :
    s.GivesWay true (.binary op left right t) right := by
  apply givesWay_of_change
  rw [sweep_inside, Sweep.inBinary, Change.left?_of_isDrop hl]

/-- Inside a guard an operation whose right operand alone is dropped gives way to the left
    one. -/
theorem givesWay_rightDropped (hl : s.drops true left = false) (hr : s.drops true right = true) :
    s.GivesWay true (.binary op left right t) left := by
  apply givesWay_of_change
  rw [sweep_inside, Sweep.inBinary, Change.left?_of_not_isDrop hl, Change.left?_of_isDrop hr]

/-- The pass at a binary operation inside a guard of which both operands are left. -/
theorem sweep_bothLeft (hl : s.drops true left = false) (hr : s.drops true right = false) :
    (s.sweep true (.binary op left right t)).change =
      if s.isCompanion op left right then .drop
      else if (s.sweep true left).change.isChange ∨ (s.sweep true right).change.isChange then
        .replace ((s.swept true left).combine op (s.swept true right))
      else .keep := by
  rw [sweep_inside, Sweep.inBinary, Change.left?_of_not_isDrop hl, Change.left?_of_not_isDrop hr]
  by_cases hc : s.isCompanion op left right = true
  · rw [if_pos hc]
    exact congrArg Sweep.change (if_pos (isCompanion_iff.mp hc))
  · rw [if_neg hc]
    refine (congrArg Sweep.change (if_neg (fun h => hc (isCompanion_iff.mpr h)))).trans ?_
    rw [apply_ite Sweep.change]
    rfl

/-- Inside a guard a test for not-null is dropped. -/
theorem drops_companion (hl : s.drops true left = false) (hr : s.drops true right = false)
    (hc : s.isCompanion op left right = true) :
    s.drops true (.binary op left right t) = true := by
  show (s.sweep true (.binary op left right t)).change.isDrop = true
  rw [sweep_bothLeft hl hr, if_pos hc]
  rfl

/-- Any other operation of which both operands are left stays one. -/
theorem swept_inside (hl : s.drops true left = false) (hr : s.drops true right = false)
    (hc : s.isCompanion op left right = false) :
    ∃ t', s.swept true (.binary op left right t)
      = .binary op (s.swept true left) (s.swept true right) t' := by
  show ∃ t', (s.sweep true (.binary op left right t)).change.result _ = _
  rw [sweep_bothLeft hl hr, if_neg (by simp [hc])]
  by_cases hch : (s.sweep true left).change.isChange ∨ (s.sweep true right).change.isChange
  · rw [if_pos hch]
    exact ⟨_, rfl⟩
  · rw [if_neg hch]
    rw [not_or, Bool.not_eq_true, Bool.not_eq_true] at hch
    refine ⟨t, ?_⟩
    show Expr.binary op left right t = .binary op (Change.result left _) (Change.result right _) t
    rw [Change.result_of_not_isChange hch.1, Change.result_of_not_isChange hch.2]

theorem drops_inside (hl : s.drops true left = false) (hr : s.drops true right = false)
    (hc : s.isCompanion op left right = false) :
    s.drops true (.binary op left right t) = false := by
  show (s.sweep true (.binary op left right t)).change.isDrop = false
  rw [sweep_bothLeft hl hr, if_neg (by simp [hc]), apply_ite Change.isDrop]
  exact ite_self false

end Inside

/-! ### Choices -/

section Choice

variable {test ifTrue ifFalse path : Expr} {t : Ty}

/-- A guard around a read wrapper value gives way to the wrapper. -/
theorem givesWay_ownerGuard {owner : Expr} {n : MemberName} {u : Ty}
    (h : s.guard? test ifTrue (.member owner n u) = some (path, .owner)) :
    s.GivesWay inside (.cond test ifTrue (.member owner n u) t) owner := by
  apply givesWay_of_change
  rw [sweep_cond, h]
  rfl

/-- A guard around a call gives way to the call. -/
theorem givesWay_wholeGuard (h : s.guard? test ifTrue ifFalse = some (path, .whole)) :
    s.GivesWay inside (.cond test ifTrue ifFalse t) ifFalse := by
  apply givesWay_of_change
  rw [sweep_cond, h]
  rfl

/-- Inside a guard any other choice on null gives way to its second branch. -/
theorem givesWay_collapsed (h : s.guard? test ifTrue ifFalse = none)
    (hnull : test.isNullCheck = true) :
    s.GivesWay true (.cond test ifTrue ifFalse t) ifFalse := by
  apply givesWay_of_change
  rw [sweep_cond, h]
  exact congrArg Sweep.change (if_pos ⟨rfl, hnull⟩)

/-- Any other choice stays one. -/
theorem swept_cond (h : s.guard? test ifTrue ifFalse = none)
    (hkeep : ¬(inside = true ∧ test.isNullCheck = true)) :
    s.swept inside (.cond test ifTrue ifFalse t)
      = .cond (s.swept inside test) (s.swept inside ifTrue) (s.swept inside ifFalse) t := by
  show (s.sweep inside (.cond test ifTrue ifFalse t)).change.result _ = _
  rw [sweep_cond, h]
  refine (congrArg (fun v : Sweep => v.change.result _) (if_neg hkeep)).trans ?_
  exact Change.result_inCond test ifTrue ifFalse t _ _ _

theorem drops_cond (h : s.guard? test ifTrue ifFalse = none)
    (hkeep : ¬(inside = true ∧ test.isNullCheck = true)) :
    s.drops inside (.cond test ifTrue ifFalse t) = false := by
  show (s.sweep inside (.cond test ifTrue ifFalse t)).change.isDrop = _
  rw [sweep_cond, h]
  refine (congrArg (fun v : Sweep => v.change.isDrop) (if_neg hkeep)).trans ?_
  exact Change.isDrop_inCond test ifTrue ifFalse t _ _ _

end Choice

/-! ### Induction along the pass -/

/-- **Induction along the pass.**  One case for each thing that the pass can do at a node, with a
    hypothesis for each part that it visits there, in the mode in which it does. -/
theorem inductSwept (s : Shape) {P : Bool → Expr → Prop}
    (leaf : ∀ inside e, e.isLeaf = true → P inside e)
    (member : ∀ inside owner n t, P inside owner → P inside (.member owner n t))
    (callOn : ∀ inside receiver m args t, P inside receiver → (∀ a ∈ args, P inside a) →
      P inside (.callOn receiver m args t))
    (call : ∀ inside m args t, (∀ a ∈ args, P inside a) → P inside (.call m args t))
    (lambda : ∀ inside params body, P inside body → P inside (.lambda params body))
    (unary : ∀ inside op operand t, ¬(inside = true ∧ op = .convert ∧ t.isOptionBool = true) →
      P inside operand → P inside (.unary op operand t))
    (stripped : ∀ operand t, t.isOptionBool = true → P true operand →
      P true (.unary .convert operand t))
    (outside : ∀ op left right t, P false left → P false right →
      P false (.binary op left right t))
    (leftDropped : ∀ op left right t, s.drops true left = true → P true left → P true right →
      P true (.binary op left right t))
    (rightDropped : ∀ op left right t, s.drops true left = false → s.drops true right = true →
      P true left → P true right → P true (.binary op left right t))
    (companion : ∀ op left right t, s.drops true left = false → s.drops true right = false →
      s.isCompanion op left right = true → P true left → P true right →
      P true (.binary op left right t))
    (bothLeft : ∀ op left right t, s.drops true left = false → s.drops true right = false →
      s.isCompanion op left right = false → P true left → P true right →
      P true (.binary op left right t))
    (ownerGuard : ∀ inside test ifTrue owner u t path,
      s.guard? test ifTrue (.member owner .wrappedValue u) = some (path, .owner) →
      P true owner → P inside (.cond test ifTrue (.member owner .wrappedValue u) t))
    (wholeGuard : ∀ inside test ifTrue ifFalse t path,
      s.guard? test ifTrue ifFalse = some (path, .whole) → P true ifFalse →
      P inside (.cond test ifTrue ifFalse t))
    (collapsed : ∀ test ifTrue ifFalse t, s.guard? test ifTrue ifFalse = none →
      test.isNullCheck = true → P true ifFalse → P true (.cond test ifTrue ifFalse t))
    (cond : ∀ inside test ifTrue ifFalse t, s.guard? test ifTrue ifFalse = none →
      ¬(inside = true ∧ test.isNullCheck = true) → P inside test → P inside ifTrue →
      P inside ifFalse → P inside (.cond test ifTrue ifFalse t))
    (inside : Bool) (e : Expr) : P inside e := by
  suffices h : ∀ inside, P inside e ∧ ∀ owner n t, e = .member owner n t → P inside owner from
    (h inside).1
  clear inside
  induction e with
  | const v t => exact fun inside => ⟨leaf inside _ rfl, by simp⟩
  | param n t => exact fun inside => ⟨leaf inside _ rfl, by simp⟩
  | root t => exact fun inside => ⟨leaf inside _ rfl, by simp⟩
  | source n t => exact fun inside => ⟨leaf inside _ rfl, by simp⟩
  | foreign l t => exact fun inside => ⟨leaf inside _ rfl, by simp⟩
  | member owner n t ih =>
    intro inside
    refine ⟨member inside owner n t (ih inside).1, ?_⟩
    rintro _ _ _ ⟨⟩
    exact (ih inside).1
  | callOn receiver m args t ihr ihas =>
    exact fun inside => ⟨callOn inside receiver m args t (ihr inside).1
      (fun a ha => (ihas a ha inside).1), by simp⟩
  | call m args t ihas =>
    exact fun inside => ⟨call inside m args t (fun a ha => (ihas a ha inside).1), by simp⟩
  | lambda params body ih =>
    exact fun inside => ⟨lambda inside params body (ih inside).1, by simp⟩
  | unary op operand t ih =>
    refine fun inside => ⟨?_, by simp⟩
    by_cases h : inside = true ∧ op = .convert ∧ t.isOptionBool = true
    · obtain ⟨rfl, rfl, ht⟩ := h
      exact stripped operand t ht (ih true).1
    · exact unary inside op operand t h (ih inside).1
  | binary op left right t ihl ihr =>
    refine fun inside => ⟨?_, by simp⟩
    cases inside with
    | false => exact outside op left right t (ihl false).1 (ihr false).1
    | true =>
      cases hl : s.drops true left with
      | true => exact leftDropped op left right t hl (ihl true).1 (ihr true).1
      | false =>
        cases hr : s.drops true right with
        | true => exact rightDropped op left right t hl hr (ihl true).1 (ihr true).1
        | false =>
          cases hc : s.isCompanion op left right with
          | true => exact companion op left right t hl hr hc (ihl true).1 (ihr true).1
          | false => exact bothLeft op left right t hl hr hc (ihl true).1 (ihr true).1
  | cond test ifTrue ifFalse t iha ihb ihc =>
    refine fun inside => ⟨?_, by simp⟩
    cases h : s.guard? test ifTrue ifFalse with
    | none =>
      by_cases hkeep : inside = true ∧ test.isNullCheck = true
      · obtain ⟨rfl, hnull⟩ := hkeep
        exact collapsed test ifTrue ifFalse t h hnull (ihc true).1
      · exact cond inside test ifTrue ifFalse t h hkeep (iha inside).1 (ihb inside).1
          (ihc inside).1
    | some g =>
      obtain ⟨path, part⟩ := g
      cases part with
      | whole => exact wholeGuard inside test ifTrue ifFalse t path h (ihc true).1
      | owner =>
        -- the pass skips the member node and visits its owner, hence the second half of the claim
        obtain ⟨owner, u, rfl⟩ := guard?_owner h
        exact ownerGuard inside test ifTrue owner u t path h ((ihc true).2 owner _ u rfl)

/-- **Induction along the pass inside a guard.**  What the pass visits there it visits inside as
    well. -/
theorem inductInside (s : Shape) {P : Expr → Prop}
    (leaf : ∀ e, e.isLeaf = true → P e)
    (member : ∀ owner n t, P owner → P (.member owner n t))
    (callOn : ∀ receiver m args t, P receiver → (∀ a ∈ args, P a) →
      P (.callOn receiver m args t))
    (call : ∀ m args t, (∀ a ∈ args, P a) → P (.call m args t))
    (lambda : ∀ params body, P body → P (.lambda params body))
    (unary : ∀ op operand t, ¬(op = .convert ∧ t.isOptionBool = true) → P operand →
      P (.unary op operand t))
    (stripped : ∀ operand t, t.isOptionBool = true → P operand → P (.unary .convert operand t))
    (leftDropped : ∀ op left right t, s.drops true left = true → P left → P right →
      P (.binary op left right t))
    (rightDropped : ∀ op left right t, s.drops true left = false → s.drops true right = true →
      P left → P right → P (.binary op left right t))
    (companion : ∀ op left right t, s.drops true left = false → s.drops true right = false →
      s.isCompanion op left right = true → P left → P right → P (.binary op left right t))
    (bothLeft : ∀ op left right t, s.drops true left = false → s.drops true right = false →
      s.isCompanion op left right = false → P left → P right → P (.binary op left right t))
    (ownerGuard : ∀ test ifTrue owner u t path,
      s.guard? test ifTrue (.member owner .wrappedValue u) = some (path, .owner) →
      P owner → P (.cond test ifTrue (.member owner .wrappedValue u) t))
    (wholeGuard : ∀ test ifTrue ifFalse t path,
      s.guard? test ifTrue ifFalse = some (path, .whole) → P ifFalse →
      P (.cond test ifTrue ifFalse t))
    (collapsed : ∀ test ifTrue ifFalse t, s.guard? test ifTrue ifFalse = none →
      test.isNullCheck = true → P ifFalse → P (.cond test ifTrue ifFalse t))
    (cond : ∀ test ifTrue ifFalse t, s.guard? test ifTrue ifFalse = none →
      test.isNullCheck = false → P test → P ifTrue → P ifFalse →
      P (.cond test ifTrue ifFalse t)) (e : Expr) : P e := by
  suffices h : ∀ inside, inside = true → P e from h true rfl
  intro inside
  induction inside, e using s.inductSwept with
  | leaf _ e he => exact fun _ => leaf e he
  | member _ owner n t ih => exact fun hin => member owner n t (ih hin)
  | callOn _ receiver m args t ihr ih =>
    exact fun hin => callOn receiver m args t (ihr hin) (fun a ha => ih a ha hin)
  | call _ m args t ih => exact fun hin => call m args t (fun a ha => ih a ha hin)
  | lambda _ params body ih => exact fun hin => lambda params body (ih hin)
  | unary _ op operand t hu ih =>
    exact fun hin => unary op operand t (fun h => hu ⟨hin, h⟩) (ih hin)
  | stripped operand t ht ih => exact fun _ => stripped operand t ht (ih rfl)
  | outside => exact fun hin => absurd hin Bool.false_ne_true
  | leftDropped op left right t hl ihl ihr =>
    exact fun _ => leftDropped op left right t hl (ihl rfl) (ihr rfl)
  | rightDropped op left right t hl hr ihl ihr =>
    exact fun _ => rightDropped op left right t hl hr (ihl rfl) (ihr rfl)
  | companion op left right t hl hr hc ihl ihr =>
    exact fun _ => companion op left right t hl hr hc (ihl rfl) (ihr rfl)
  | bothLeft op left right t hl hr hc ihl ihr =>
    exact fun _ => bothLeft op left right t hl hr hc (ihl rfl) (ihr rfl)
  | ownerGuard _ test ifTrue owner u t path hg ih =>
    exact fun _ => ownerGuard test ifTrue owner u t path hg (ih rfl)
  | wholeGuard _ test ifTrue ifFalse t path hg ih =>
    exact fun _ => wholeGuard test ifTrue ifFalse t path hg (ih rfl)
  | collapsed test ifTrue ifFalse t hg hnull ih =>
    exact fun _ => collapsed test ifTrue ifFalse t hg hnull (ih rfl)
  | cond _ test ifTrue ifFalse t hg hkeep iha ihb ihc =>
    intro hin
    have hnull : test.isNullCheck = false := Bool.eq_false_iff.mpr (fun h => hkeep ⟨hin, h⟩)
    exact cond test ifTrue ifFalse t hg hnull (iha hin) (ihb hin) (ihc hin)

end Shape

end GuardErasure
