import GuardErasure.Proofs.Expr.AtSource
import GuardErasure.Proofs.Guard.Combined

namespace GuardErasure.Shape

/-!
# The pass among sources

What makes a guard is told by the types and the equality of trees.  Neither changes if the roots become
a source that was not there, so the pass finds the same guards then:

* `match?_atSource`, `guard?_atSource` — the same uses and the same guards;
* `sweptAlike_of_awaits`, `erase_atSource` — so it leaves the same tree, with the source in it.
-/

variable {name : String} {element : Ty} {s : Shape} {inside : Bool}

/-! ### Guards -/

theorem isDefault_atSource (e : Expr) : s.isDefault (e.atSource name) = s.isDefault e := by
  induction s with
  | member => exact e.isBoolLiteral_atSource false
  | method => cases e <;> rfl
  | off => rfl
  | on s ih => exact ih
  | either a b iha ihb => rw [isDefault, isDefault, iha, ihb]

theorem memberOperand?_atSource (e : Expr) :
    memberOperand? (e.atSource name) = (memberOperand? e).map (Expr.atSource name) := by
  cases e with
  | member owner n t =>
    cases n with
    | wrappedValue =>
      show (if (owner.atSource name).ty.isOption then _ else _) = Option.map _ (if _ then _ else _)
      rw [Expr.ty_atSource]
      cases owner.ty.isOption <;> rfl
    | _ => rfl
  | _ => rfl

theorem methodOperand?_atSource (e : Expr) :
    methodOperand? (e.atSource name) = (methodOperand? e).map (Expr.atSource name) := by
  cases e with
  | callOn receiver m args t =>
    show (if (receiver.atSource name).ty.mayBeNull then _ else _) = Option.map _ (if _ then _ else _)
    rw [Expr.ty_atSource]
    cases receiver.ty.mayBeNull <;> rfl
  | call m args t =>
    cases args with
    | nil => rfl
    | cons a as =>
      show (if (a.atSource name).ty.mayBeNull then _ else _) = Option.map _ (if _ then _ else _)
      rw [Expr.ty_atSource]
      cases a.ty.mayBeNull <;> rfl
  | _ => rfl

theorem operand?_atSource (e : Expr) :
    s.operand? (e.atSource name) = (s.operand? e).map (Expr.atSource name) := by
  induction s with
  | member => exact memberOperand?_atSource e
  | method => exact methodOperand?_atSource e
  | off => rfl
  | on s ih => exact ih
  | either a b iha ihb => rw [operand?, operand?, iha, ihb, Option.map_or]

theorem part_atSource (e : Expr) : s.part (e.atSource name) = s.part e := by
  induction s with
  | member => rw [part, part, memberOperand?_atSource, Option.isSome_map]
  | method | off => rfl
  | on s ih => exact ih
  | either a b iha ihb => rw [part, part, operand?_atSource, Option.isSome_map, iha, ihb]

/-- **The same uses** match. -/
theorem match?_atSource (ifTrue ifFalse : Expr) :
    s.match? (ifTrue.atSource name) (ifFalse.atSource name)
      = (s.match? ifTrue ifFalse).map fun u => ⟨u.operand.atSource name, u.part⟩ := by
  have hbasic (s : Shape) :
      (if s.isDefault (ifTrue.atSource name) then
          (s.operand? (ifFalse.atSource name)).map fun o => Use.mk o (s.part (ifFalse.atSource name))
        else none)
        = (if s.isDefault ifTrue then (s.operand? ifFalse).map fun o => Use.mk o (s.part ifFalse)
          else none).map fun u => ⟨u.operand.atSource name, u.part⟩ := by
    rw [isDefault_atSource, operand?_atSource, part_atSource]
    split
    · rw [Option.map_map, Option.map_map]
      rfl
    · rfl
  induction s with
  | member => exact hbasic member
  | method => exact hbasic method
  | off => rfl
  | on s ih => exact ih
  | either a b iha ihb => rw [match?, match?, iha, ihb, Option.map_or]

/-- What a use uses is a part of it. -/
theorem operand_mem_parts {ifTrue ifFalse : Expr} {u : Use}
    (h : s.match? ifTrue ifFalse = some u) : u.operand ∈ ifFalse.parts := by
  obtain ⟨operand, part⟩ := u
  cases part with
  | owner =>
    obtain ⟨t, rfl⟩ := match?_owner h
    exact List.mem_singleton_self operand
  | whole =>
    have hoperand : methodOperand? ifFalse = some operand := match?_whole h
    unfold methodOperand? at hoperand
    split at hoperand
    · split at hoperand <;> cases hoperand
      exact List.mem_cons_self
    · split at hoperand <;> cases hoperand
      exact List.mem_cons_self
    · cases hoperand

/-- What is compared with null is a part of the test. -/
theorem nullChecked?_mem_parts {test path : Expr} (h : test.nullChecked? = some path) :
    path ∈ test.parts := by
  unfold Expr.nullChecked? at h
  split at h
  · split at h <;> cases h
    exact List.mem_cons_self
  · cases h

/-- **The same guards** are found: a path that is used is the path that is tested exactly if it was. -/
theorem guard?_atSource {test ifTrue ifFalse : Expr} {t : Ty}
    (h : (Expr.cond test ifTrue ifFalse t).Awaits name element) :
    s.guard? (test.atSource name) (ifTrue.atSource name) (ifFalse.atSource name)
      = (s.guard? test ifTrue ifFalse).map fun g => (g.1.atSource name, g.2) := by
  have htest : test.Awaits name element := h.part (by simp [Expr.parts])
  have huse : ifFalse.Awaits name element := h.part (by simp [Expr.parts])
  rw [guard?, guard?, Expr.nullChecked?_atSource, match?_atSource]
  cases hpath : test.nullChecked? with
  | none => rfl
  | some path =>
    cases hmatch : s.match? ifTrue ifFalse with
    | none => rfl
    | some u =>
      have hsame : (u.operand.atSource name == path.atSource name) = (u.operand == path) :=
        Expr.beq_atSource (huse.part (operand_mem_parts hmatch))
          (htest.part (nullChecked?_mem_parts hpath))
      show (if u.operand.atSource name == path.atSource name then _ else _)
        = Option.map _ (if u.operand == path then _ else _)
      rw [hsame]
      cases u.operand == path <;> rfl

/-! ### The pass -/

/-- The pass does to the tree with sources what it does to the tree with roots. -/
def SweptAlike (s : Shape) (name : String) (inside : Bool) (e : Expr) : Prop :=
  s.swept inside (e.atSource name) = (s.swept inside e).atSource name ∧
    s.drops inside (e.atSource name) = s.drops inside e

theorem sweptAlike_of_givesWay {e part : Expr} (h : s.GivesWay inside e part)
    (hat : s.GivesWay inside (e.atSource name) (part.atSource name))
    (ih : s.SweptAlike name true part) : s.SweptAlike name inside e :=
  ⟨hat.1.trans (ih.1.trans (congrArg (Expr.atSource name) h.1.symm)),
    hat.2.trans (ih.2.trans h.2.symm)⟩

theorem isCompanion_atSource {op : BinOp} {left right : Expr} (hl : s.SweptAlike name true left)
    (hr : s.SweptAlike name true right) :
    s.isCompanion op (left.atSource name) (right.atSource name) = s.isCompanion op left right := by
  rw [isCompanion, isCompanion, hl.1, hr.1, Expr.isNullLiteral_atSource,
    Expr.isNullLiteral_atSource]

theorem map_swept_atSource {args : List Expr} (h : ∀ a ∈ args, s.SweptAlike name inside a) :
    (args.map (Expr.atSource name)).map (s.swept inside)
      = (args.map (s.swept inside)).map (Expr.atSource name) := by
  rw [List.map_map, List.map_map]
  exact List.map_congr_left fun a ha => (h a ha).1

/-- **The pass finds the same** among sources, in and outside of guards, in a tree in which every
    operation is typed by its operands. -/
theorem sweptAlike_of_awaits {e : Expr} (hawaits : e.Awaits name element) (hcombined : e.Combined) :
    s.SweptAlike name inside e := by
  induction inside, e using s.inductSwept with
  | leaf inside e he =>
    have hat : (e.atSource name).isLeaf = true := by
      cases e with
      | const | param | root | source | foreign => rfl
      | _ => cases he
    exact ⟨(swept_leaf hat).trans (congrArg (Expr.atSource name) (swept_leaf he).symm),
      (drops_leaf hat).trans (drops_leaf he).symm⟩
  | member inside owner n t ih =>
    rw [Expr.combined_member] at hcombined
    have howner := ih (hawaits.part (by simp [Expr.parts])) hcombined
    constructor
    · rw [swept_member, Expr.atSource, Expr.atSource, swept_member, howner.1]
    · rw [drops_member, Expr.atSource, drops_member]
  | lambda inside params body ih =>
    rw [Expr.combined_lambda] at hcombined
    have hbody := ih (hawaits.part (by simp [Expr.parts])) hcombined
    constructor
    · rw [swept_lambda, Expr.atSource, Expr.atSource, swept_lambda, hbody.1]
    · rw [drops_lambda, Expr.atSource, drops_lambda]
  | unary inside op operand t hu ih =>
    rw [Expr.combined_unary] at hcombined
    have hoperand := ih (hawaits.part (by simp [Expr.parts])) hcombined
    constructor
    · rw [swept_unary hu, Expr.atSource, Expr.atSource, swept_unary hu, hoperand.1]
    · rw [drops_unary hu, Expr.atSource, drops_unary hu]
  | call inside m args t ih =>
    rw [Expr.combined_call] at hcombined
    have hargs : ∀ a ∈ args, s.SweptAlike name inside a :=
      fun a ha => ih a ha (hawaits.part (by simpa [Expr.parts])) (hcombined a ha)
    constructor
    · rw [swept_call, Expr.atSource_call, Expr.atSource_call, swept_call, map_swept_atSource hargs]
    · rw [drops_call, Expr.atSource_call, drops_call]
  | callOn inside receiver m args t ihr ih =>
    rw [Expr.combined_callOn] at hcombined
    have hreceiver := ihr (hawaits.part (by simp [Expr.parts])) hcombined.1
    have hargs : ∀ a ∈ args, s.SweptAlike name inside a :=
      fun a ha => ih a ha (hawaits.part (by simp [Expr.parts, ha])) (hcombined.2 a ha)
    constructor
    · rw [swept_callOn, Expr.atSource_callOn, Expr.atSource_callOn, swept_callOn, hreceiver.1,
        map_swept_atSource hargs]
    · rw [drops_callOn, Expr.atSource_callOn, drops_callOn]
  | stripped operand t ht ih =>
    rw [Expr.combined_unary] at hcombined
    exact sweptAlike_of_givesWay (givesWay_stripped ht) (givesWay_stripped ht)
      (ih (hawaits.part (by simp [Expr.parts])) hcombined)
  | outside op left right t ihl ihr =>
    obtain ⟨ht, hleft, hright⟩ := (Expr.combined_binary op left right t).mp hcombined
    have hl := ihl (hawaits.part (by simp [Expr.parts])) hleft
    have hr := ihr (hawaits.part (by simp [Expr.parts])) hright
    -- both trees have the operation typed by operands of the same types, before and after
    have htat : t = op.resultTy (left.atSource name).ty (right.atSource name).ty := by
      rw [Expr.ty_atSource, Expr.ty_atSource, ht]
    constructor
    · rw [swept_outside_eq, BinOp.newTy_of_combined ht, Expr.atSource, Expr.atSource,
        swept_outside_eq, BinOp.newTy_of_combined htat, hl.1, hr.1, Expr.ty_atSource,
        Expr.ty_atSource]
    · rw [drops_outside, Expr.atSource, drops_outside]
  | leftDropped op left right t hdrop ihl ihr =>
    rw [Expr.combined_binary] at hcombined
    have hl := ihl (hawaits.part (by simp [Expr.parts])) hcombined.2.1
    have hr := ihr (hawaits.part (by simp [Expr.parts])) hcombined.2.2
    exact sweptAlike_of_givesWay (givesWay_leftDropped hdrop)
      (givesWay_leftDropped (hl.2.trans hdrop)) hr
  | rightDropped op left right t hkeep hdrop ihl ihr =>
    rw [Expr.combined_binary] at hcombined
    have hl := ihl (hawaits.part (by simp [Expr.parts])) hcombined.2.1
    have hr := ihr (hawaits.part (by simp [Expr.parts])) hcombined.2.2
    exact sweptAlike_of_givesWay (givesWay_rightDropped hkeep hdrop)
      (givesWay_rightDropped (hl.2.trans hkeep) (hr.2.trans hdrop)) hl
  | companion op left right t hlkeep hrkeep hc ihl ihr =>
    rw [Expr.combined_binary] at hcombined
    have hl := ihl (hawaits.part (by simp [Expr.parts])) hcombined.2.1
    have hr := ihr (hawaits.part (by simp [Expr.parts])) hcombined.2.2
    have hdrop := drops_companion (t := t) hlkeep hrkeep hc
    have hdropat := drops_companion (t := t) (hl.2.trans hlkeep) (hr.2.trans hrkeep)
      ((isCompanion_atSource hl hr).trans hc)
    constructor
    · rw [swept_of_drops hdrop]
      exact swept_of_drops hdropat
    · exact hdropat.trans hdrop.symm
  | bothLeft op left right t hlkeep hrkeep hc ihl ihr =>
    obtain ⟨ht, hleft, hright⟩ := (Expr.combined_binary op left right t).mp hcombined
    have hl := ihl (hawaits.part (by simp [Expr.parts])) hleft
    have hr := ihr (hawaits.part (by simp [Expr.parts])) hright
    have htat : t = op.resultTy (left.atSource name).ty (right.atSource name).ty := by
      rw [Expr.ty_atSource, Expr.ty_atSource, ht]
    have hlat := hl.2.trans hlkeep
    have hrat := hr.2.trans hrkeep
    have hcat := (isCompanion_atSource hl hr).trans hc
    constructor
    · rw [swept_inside_eq hlkeep hrkeep hc, BinOp.newTy_of_combined ht, Expr.atSource, Expr.atSource,
        swept_inside_eq hlat hrat hcat, BinOp.newTy_of_combined htat, hl.1, hr.1, Expr.ty_atSource,
        Expr.ty_atSource]
    · rw [drops_inside hlkeep hrkeep hc]
      exact drops_inside hlat hrat hcat
  | ownerGuard inside test ifTrue owner u t path hg ih =>
    rw [Expr.combined_cond, Expr.combined_member] at hcombined
    have huse : (Expr.member owner .wrappedValue u).Awaits name element :=
      hawaits.part (by simp [Expr.parts])
    -- the path that is tested waits for the source as the one that is used does
    have hgat := guard?_atSource (s := s) hawaits
    rw [hg] at hgat
    exact sweptAlike_of_givesWay (givesWay_ownerGuard hg) (givesWay_ownerGuard hgat)
      (ih (huse.part (by simp [Expr.parts])) hcombined.2.2)
  | wholeGuard inside test ifTrue ifFalse t path hg ih =>
    rw [Expr.combined_cond] at hcombined
    have hgat := guard?_atSource (s := s) hawaits
    rw [hg] at hgat
    exact sweptAlike_of_givesWay (givesWay_wholeGuard hg) (givesWay_wholeGuard hgat)
      (ih (hawaits.part (by simp [Expr.parts])) hcombined.2.2)
  | collapsed test ifTrue ifFalse t hg hnull ih =>
    rw [Expr.combined_cond] at hcombined
    have hgat := guard?_atSource (s := s) hawaits
    rw [hg] at hgat
    exact sweptAlike_of_givesWay (givesWay_collapsed hg hnull)
      (givesWay_collapsed hgat ((Expr.isNullCheck_atSource test).trans hnull))
      (ih (hawaits.part (by simp [Expr.parts])) hcombined.2.2)
  | cond inside test ifTrue ifFalse t hg hkeep iha ihb ihc =>
    rw [Expr.combined_cond] at hcombined
    have ha := iha (hawaits.part (by simp [Expr.parts])) hcombined.1
    have hb := ihb (hawaits.part (by simp [Expr.parts])) hcombined.2.1
    have hc := ihc (hawaits.part (by simp [Expr.parts])) hcombined.2.2
    have hgat := guard?_atSource (s := s) hawaits
    rw [hg] at hgat
    have hkeepat : ¬(inside = true ∧ (test.atSource name).isNullCheck = true) := by
      rwa [Expr.isNullCheck_atSource]
    constructor
    · rw [swept_cond hg hkeep, Expr.atSource, Expr.atSource, swept_cond hgat hkeepat,
        ha.1, hb.1, hc.1]
    · rw [drops_cond hg hkeep]
      exact drops_cond hgat hkeepat

/-- So erasing leaves the same tree, with the source in the place of its roots. -/
theorem erase_atSource {e : Expr} (hawaits : e.Awaits name element) (hcombined : e.Combined) :
    s.erase (e.atSource name) = (s.erase e).atSource name :=
  (sweptAlike_of_awaits hawaits hcombined).1

end GuardErasure.Shape
