import GuardErasure.Proofs.Guard.Kept
import GuardErasure.Samples

namespace GuardErasure

/-!
# Guards and choices on null that are left

The pass decides about a choice from the choice as it was, and then sweeps the parts.  So a
choice that it keeps may become a guard, or a choice on null, when its parts are swept:

* `eraseGuards_twice_iff` — a second pass finds nothing to do exactly if no kept choice has
  become a guard;
* `Shape.core`, `Shape.becomesNullCheck` — the node that comes out on top of a tree inside a
  guard, and the tests that become tests for null there;
* `nullChoices_erase_iff` — what a removed guard leaves is free of choices on null exactly if
  no kept choice is on a test that becomes one.
-/

namespace Expr

/-- Is this a choice on a test for null? -/
def isNullChoice : Expr → Bool
  | cond test _ _ _ => test.isNullCheck
  | _ => false

/-- Choices on null are choices. -/
theorem isCond_of_isNullChoice {e : Expr} (h : e.isNullChoice = true) : e.isCond = true := by
  cases e with
  | cond => rfl
  | _ => cases h

theorem isNullCheck_binary (op : BinOp) (left right : Expr) (t : Ty) :
    (binary op left right t).isNullCheck = (op == .equal && right.isNullLiteral) := by
  cases op with
  | equal =>
    show (if right.isNullLiteral = true then some left else none).isSome = _
    cases right.isNullLiteral <;> rfl
  | _ => rfl

end Expr

namespace Shape

variable {s : Shape} {inside : Bool}

/-- Guards of any shape are choices on null. -/
theorem isNullChoice_of_isGuard {e : Expr} (h : s.isGuard e = true) :
    e.isNullChoice = true := by
  cases e with
  | cond test ifTrue ifFalse t =>
    obtain ⟨⟨path, part⟩, hg⟩ := Option.isSome_iff_exists.mp h
    exact isNullCheck_of_guard? hg
  | _ => cases h

/-! ### A second pass -/

/-- **A second pass** finds nothing to do exactly if no choice that the first one kept has become
    a guard when its parts were swept. -/
theorem erase_erase_iff (s : Shape) (e : Expr) :
    s.erase (s.erase e) = s.erase e ↔ ∀ k ∈ s.kept false e, s.isGuard (k.swept s) = false := by
  rw [erase_eq_swept (s.erase e), swept_eq_self_iff, erase_eq_swept, choices_swept]
  exact List.forall_mem_map

end Shape

/-- **When erasing is idempotent**, for each of the three erasures. -/
theorem eraseGuards_twice_iff (e : Expr) :
    (eraseMemberGuards (eraseMemberGuards e) = eraseMemberGuards e
        ↔ ∀ k ∈ Shape.member.kept false e, Shape.member.isGuard (k.swept .member) = false)
      ∧ (eraseMethodGuards (eraseMethodGuards e) = eraseMethodGuards e
        ↔ ∀ k ∈ Shape.method.kept false e, Shape.method.isGuard (k.swept .method) = false)
      ∧ (eraseGuards (eraseGuards e) = eraseGuards e
        ↔ ∀ k ∈ Shape.both.kept false e, Shape.both.isGuard (k.swept .both) = false) :=
  ⟨Shape.member.erase_erase_iff e, Shape.method.erase_erase_iff e, Shape.both.erase_erase_iff e⟩

namespace Samples

/-- `p.Flag == (null == null ? false : null.Value) ? false : p.Flag.Value` -/
def memberGuardInTest : Expr :=
  .choose (flag.combine .equal (Expr.null (.option .bool)).guarded) (.ofValue (.bool false))
    flag.readValue

/-- `p.Name.trim()` -/
def trimmedName : Expr := name.invoke "trim" [] .string

/-- `p.Name.trim() == null ? "k" : (p.Name == null ? "" : p.Name.trim()).to_lower()` -/
def methodGuardInUse : Expr :=
  .choose trimmedName.eqNull (.ofValue (.string "k"))
    ((Expr.choose name.eqNull (.ofValue (.string "")) trimmedName).invoke "to_lower" [] .string)

end Samples

/-- A second pass may find guards that the first one has uncovered, whatever the shape. -/
theorem eraseGuards_twice_ne :
    eraseMemberGuards (eraseMemberGuards Samples.memberGuardInTest)
        ≠ eraseMemberGuards Samples.memberGuardInTest
      ∧ eraseMethodGuards (eraseMethodGuards Samples.methodGuardInUse)
        ≠ eraseMethodGuards Samples.methodGuardInUse
      ∧ eraseGuards (eraseGuards Samples.methodGuardInUse)
        ≠ eraseGuards Samples.methodGuardInUse := by
  refine ⟨fun h => ?_, fun h => ?_, fun h => ?_⟩
  · exact absurd (congrArg Expr.size h) (by decide)
  · exact absurd (congrArg Expr.size h) (by decide)
  · exact absurd (congrArg Expr.size h) (by decide)

/-! ### The node on top of what is left inside a guard -/

namespace Shape

variable {s : Shape}

mutual

/-- The node that comes out on top when a tree is swept inside a guard: conversions, operations
    with a dropped operand, guards and choices on null give way on the way down to it. -/
def core (s : Shape) : Expr → Expr
  | .unary op operand t =>
    if op = .convert ∧ t.isOptionBool then core s operand else .unary op operand t
  | .binary op left right t =>
    if s.drops true left then core s right
    else if s.drops true right then core s left
    else .binary op left right t
  | .cond test ifTrue ifFalse t =>
    match s.guard? test ifTrue ifFalse with
    | some (_, .owner) => ownerCore s ifFalse
    | some (_, .whole) => core s ifFalse
    | none => if test.isNullCheck then core s ifFalse else .cond test ifTrue ifFalse t
  | e => e

/-- The node that comes out on top of the owner that a member read gives way to. -/
def ownerCore (s : Shape) : Expr → Expr
  | .member owner _ _ => core s owner
  | e => e

end

/-- Does a test that is swept inside a guard come out as a test for null? -/
def becomesNullCheck (s : Shape) (test : Expr) : Bool :=
  match s.core test with
  | .binary op _ right _ => op == .equal && (s.core right).isNullLiteral
  | _ => false

theorem core_leaf {e : Expr} (h : e.isLeaf = true) : s.core e = e := by
  cases e <;> first | rfl | exact absurd h (by simp [Expr.isLeaf])

theorem core_unary (op : UnOp) (operand : Expr) (t : Ty) :
    s.core (.unary op operand t) =
      if op = .convert ∧ t.isOptionBool then s.core operand else .unary op operand t := rfl

theorem core_binary (op : BinOp) (left right : Expr) (t : Ty) :
    s.core (.binary op left right t) =
      if s.drops true left then s.core right
      else if s.drops true right then s.core left
      else .binary op left right t := rfl

theorem core_cond (test ifTrue ifFalse : Expr) (t : Ty) :
    s.core (.cond test ifTrue ifFalse t) =
      match s.guard? test ifTrue ifFalse with
      | some (_, .owner) => s.ownerCore ifFalse
      | some (_, .whole) => s.core ifFalse
      | none => if test.isNullCheck then s.core ifFalse else .cond test ifTrue ifFalse t := rfl

/-- What is left inside a guard, beside the node on top of it as it was. -/
inductive OnTop (s : Shape) : Expr → Expr → Prop
  /-- An operation is left, around what is left of its operands. -/
  | binary (op : BinOp) (left right : Expr) (t t' : Ty) :
    OnTop s (.binary op (s.swept true left) (s.swept true right) t') (.binary op left right t)
  /-- Nothing is left of a test for not-null. -/
  | dropped (left right : Expr) (t : Ty) :
    OnTop s .trueLiteral (.binary .notEqual left right t)
  /-- Another node of the same kind is left. -/
  | other (new old : Expr) (hkind : new.kind = old.kind) (hbinary : old.kind ≠ .binary)
    (hnull : new.isNullLiteral = old.isNullLiteral) : OnTop s new old

/-- Nothing but the node on top decides what is left of a tree inside a guard. -/
theorem onTop_core (s : Shape) (e : Expr) : s.OnTop (s.swept true e) (s.core e) := by
  induction e using s.inductInside with
  | leaf e he =>
    rw [swept_leaf he, core_leaf he]
    refine .other _ _ rfl ?_ rfl
    cases e with
    | binary => cases he
    | _ => exact NodeKind.noConfusion
  | member owner n t ih =>
    rw [swept_member]
    exact .other _ (.member owner n t) rfl (by simp [Expr.kind]) rfl
  | callOn receiver m args t ihr ih =>
    rw [swept_callOn]
    exact .other _ (.callOn receiver m args t) rfl (by simp [Expr.kind]) rfl
  | call m args t ih =>
    rw [swept_call]
    exact .other _ (.call m args t) rfl (by simp [Expr.kind]) rfl
  | lambda params body ih =>
    rw [swept_lambda]
    exact .other _ (.lambda params body) rfl (by simp [Expr.kind]) rfl
  | unary op operand t hu ih =>
    rw [swept_unary (fun h => hu h.2), core_unary, if_neg hu]
    exact .other _ _ rfl (by simp [Expr.kind]) rfl
  | stripped operand t ht ih =>
    rw [(givesWay_stripped ht).1, core_unary, if_pos ⟨rfl, ht⟩]
    exact ih
  | leftDropped op left right t hl ihl ihr =>
    rw [(givesWay_leftDropped hl).1, core_binary, if_pos hl]
    exact ihr
  | rightDropped op left right t hl hr ihl ihr =>
    rw [(givesWay_rightDropped hl hr).1, core_binary, if_neg (by simp [hl]), if_pos hr]
    exact ihl
  | companion op left right t hl hr hc =>
    obtain ⟨rfl, _⟩ := isCompanion_iff.mp hc
    -- the literal `true` is left, and the core is the test that was dropped
    rw [swept_of_drops (drops_companion hl hr hc), core_binary, if_neg (by simp [hl]),
      if_neg (by simp [hr])]
    exact .dropped left right t
  | bothLeft op left right t hl hr hc =>
    obtain ⟨t', ht'⟩ := swept_inside (t := t) hl hr hc
    rw [ht', core_binary, if_neg (by simp [hl]), if_neg (by simp [hr])]
    exact .binary op left right t t'
  | ownerGuard test ifTrue owner u t path hg ih =>
    rw [(givesWay_ownerGuard hg).1, core_cond, hg]
    exact ih
  | wholeGuard test ifTrue ifFalse t path hg ih =>
    rw [(givesWay_wholeGuard hg).1, core_cond, hg]
    exact ih
  | collapsed test ifTrue ifFalse t hg hnull ih =>
    have hcore : s.core (.cond test ifTrue ifFalse t) = s.core ifFalse := by
      rw [core_cond, hg]
      exact if_pos hnull
    rw [(givesWay_collapsed hg hnull).1, hcore]
    exact ih
  | cond test ifTrue ifFalse t hg hnull =>
    have hcore : s.core (.cond test ifTrue ifFalse t) = .cond test ifTrue ifFalse t := by
      rw [core_cond, hg]
      exact if_neg (Bool.eq_false_iff.mp hnull)
    rw [swept_cond hg (by simp [hnull]), hcore]
    exact .other _ _ rfl (by simp [Expr.kind]) rfl

theorem OnTop.isNullLiteral_eq {new old : Expr} (h : s.OnTop new old) :
    new.isNullLiteral = old.isNullLiteral := by
  cases h with
  | other _ _ _ _ hnull => exact hnull
  | _ => rfl

theorem isNullLiteral_swept (e : Expr) :
    (s.swept true e).isNullLiteral = (s.core e).isNullLiteral :=
  (onTop_core s e).isNullLiteral_eq

/-- The tests that come out as tests for null. -/
theorem isNullCheck_swept (e : Expr) : (s.swept true e).isNullCheck = s.becomesNullCheck e := by
  have h := onTop_core s e
  -- only the two trees on either side of the relation matter, not where they come from
  unfold becomesNullCheck
  generalize s.core e = old at h ⊢
  generalize s.swept true e = new at h ⊢
  cases h with
  | binary op left right t t' => rw [Expr.isNullCheck_binary, isNullLiteral_swept]
  | dropped => rfl
  | other _ _ hkind hbinary =>
    cases old <;> first | exact absurd rfl hbinary | (cases new <;> first | rfl | cases hkind)

/-! ### Choices on null that are left -/

/-- Inside a guard every choice that is kept is met inside the guard. -/
theorem inside_of_mem_kept (s : Shape) (e : Expr) : ∀ k ∈ s.kept true e, k.inside = true := by
  induction e using s.inductInside with
  | leaf e he =>
    rw [kept_leaf he]
    exact List.forall_mem_nil _
  | member owner n t ih => exact ih
  | lambda params body ih => exact ih
  | call m args t ih =>
    rw [kept_call, List.forall_mem_flatMap]
    exact ih
  | callOn receiver m args t ihr ih =>
    rw [kept_callOn, List.forall_mem_append, List.forall_mem_flatMap]
    exact ⟨ihr, ih⟩
  | unary op operand t hu ih => exact ih
  | stripped operand t ht ih => exact ih
  | leftDropped op left right t hl ihl ihr =>
    rw [kept_leftDropped hl]
    exact ihr
  | rightDropped op left right t hl hr ihl ihr =>
    rw [kept_rightDropped hl hr]
    exact ihl
  | companion op left right t hl hr hc =>
    rw [kept_companion hl hr hc]
    exact List.forall_mem_nil _
  | bothLeft op left right t hl hr hc ihl ihr =>
    rw [kept_bothLeft hl hr hc, List.forall_mem_append]
    exact ⟨ihl, ihr⟩
  | ownerGuard test ifTrue owner u t path hg ih =>
    rw [kept_guard hg]
    exact ih
  | wholeGuard test ifTrue ifFalse t path hg ih =>
    rw [kept_guard hg]
    exact ih
  | collapsed test ifTrue ifFalse t hg hnull ih =>
    rw [kept_collapsed hg hnull]
    exact ih
  | cond test ifTrue ifFalse t hg hnull iha ihb ihc =>
    rw [kept_cond hg (by simp [hnull]), List.forall_mem_cons, List.forall_mem_append,
      List.forall_mem_append]
    exact ⟨rfl, ⟨iha, ihb⟩, ihc⟩

/-- What a guard gives way to is swept inside the guard. -/
theorem inside_of_mem_kept_guard {g : Expr} (hg : s.isGuard g = true) {k : Kept}
    (hk : k ∈ s.kept false g) : k.inside = true := by
  cases g with
  | cond test ifTrue ifFalse t =>
    obtain ⟨⟨path, part⟩, h⟩ := Option.isSome_iff_exists.mp hg
    rw [kept_guard h] at hk
    exact inside_of_mem_kept s _ k hk
  | _ => cases hg

/-- A choice that is met inside a guard is left as a choice on null exactly if its test becomes
    a test for null. -/
theorem isNullChoice_keptSwept {k : Kept} (h : k.inside = true) :
    (k.swept s).isNullChoice = s.becomesNullCheck k.test := by
  show (s.swept k.inside k.test).isNullCheck = _
  rw [h, isNullCheck_swept]

end Shape

/-- **What a removed guard leaves** is free of choices on null, and so of guards of any shape,
    exactly if no choice that is kept in it is on a test that becomes a test for null. -/
theorem nullChoices_erase_iff {s : Shape} {g : Expr} (hg : s.isGuard g = true) :
    (∀ n ∈ (s.erase g).nodes, n.isNullChoice = false ∧ ∀ r : Shape, r.isGuard n = false)
      ↔ ∀ k ∈ s.kept false g, s.becomesNullCheck k.test = false := by
  -- choices on null are choices, and those that are left are known
  have hchoices : (∀ n ∈ (s.erase g).choices, n.isNullChoice = false)
      ↔ ∀ k ∈ s.kept false g, s.becomesNullCheck k.test = false := by
    rw [Shape.erase_eq_swept, Shape.choices_swept, List.forall_mem_map]
    refine forall₂_congr (fun k hk => ?_)
    rw [Shape.isNullChoice_keptSwept (Shape.inside_of_mem_kept_guard hg hk)]
  rw [← hchoices]
  constructor
  · intro h n hn
    exact (h n (Expr.mem_choices.mp hn).1).1
  · intro h n hn
    -- what is no choice is no choice on null, and what is no choice on null is no guard
    have hnull : n.isNullChoice = false := by
      refine Bool.eq_false_iff.mpr (fun hc => ?_)
      have hmem := Expr.mem_choices.mpr ⟨hn, Expr.isCond_of_isNullChoice hc⟩
      rw [h n hmem] at hc
      cases hc
    refine ⟨hnull, fun r => Bool.eq_false_iff.mpr (fun hr => ?_)⟩
    rw [Shape.isNullChoice_of_isGuard hr] at hnull
    cases hnull

namespace Samples

/-- A guard over `p.Name.to_lower() == "k" ? p.Flag : p.Flag`. -/
def guardedChoice : Expr := (Expr.choose nameTest flag flag).guarded

/-- A guard over `(p.Name == null) as bool? ? null : p.Flag`, whose test is a test for null only
    once the conversion is gone. -/
def guardedConversion : Expr :=
  (Expr.choose (name.eqNull.convertTo (.option .bool)) (.null (.option .bool)) flag).guarded

end Samples

/-- A choice inside a guard that is not on null is kept, and that is all that is left. -/
theorem nullChoices_erase_guardedChoice :
    Shape.both.isGuard Samples.guardedChoice = true
      ∧ (Shape.both.kept false Samples.guardedChoice).length = 1
      ∧ ∀ n ∈ (Shape.both.erase Samples.guardedChoice).nodes,
        n.isNullChoice = false ∧ ∀ r : Shape, r.isGuard n = false := by
  have hg : Shape.both.isGuard Samples.guardedChoice = true := by decide
  exact ⟨hg, by decide, (nullChoices_erase_iff hg).mpr (by decide)⟩

/-- A removed guard may leave a choice on null. -/
theorem nullChoices_left :
    Shape.member.isGuard Samples.guardedConversion = true
      ∧ Shape.both.isGuard Samples.guardedConversion = true
      ∧ (∃ n ∈ (Shape.member.erase Samples.guardedConversion).nodes, n.isNullChoice = true)
      ∧ ∃ n ∈ (Shape.both.erase Samples.guardedConversion).nodes, n.isNullChoice = true := by
  decide

end GuardErasure
