import GuardErasure.Proofs.Eval.Carry
import GuardErasure.Proofs.Guard.Swept
import GuardErasure.Samples

namespace GuardErasure

/-!
# What becomes of the value

A tree without its guards has the value that it had before, as far as

* no test for null that goes with a guard meets a null path, and no dropped test for not-null
  meets two nulls (`Shape.Harmless`);
* inside of guards no operation but `and` loses an operand (`Shape.insideOps`,
  `Shape.sparesOperands`).

`Shape.carries_swept` is the simulation, one case for each thing that the pass can do, and
`eval_erasures` is what follows from it for an evaluation that never compares two nulls.
-/

namespace Shape

/-! ### Operations inside of guards -/

mutual

/-- The operations that the pass visits inside a guard. -/
def insideOps (s : Shape) (inside : Bool) : Expr → List Expr
  | .member owner _ _ => insideOps s inside owner
  | .callOn receiver _ args _ => insideOps s inside receiver ++ insideOpsArgs s inside args
  | .call _ args _ => insideOpsArgs s inside args
  | .unary _ operand _ => insideOps s inside operand
  | .binary op left right t =>
    (if inside then [.binary op left right t] else [])
      ++ (insideOps s inside left ++ insideOps s inside right)
  | .cond test ifTrue ifFalse _ =>
    if s.yields (.visited inside) test ifTrue ifFalse then insideOps s true ifFalse
    else insideOps s inside test ++ insideOps s inside ifTrue ++ insideOps s inside ifFalse
  | .lambda _ body => insideOps s inside body
  | .const .. | .param .. | .root .. | .source .. | .foreign .. => []

/-- The operations of several trees that the pass visits inside a guard. -/
def insideOpsArgs (s : Shape) (inside : Bool) : List Expr → List Expr
  | [] => []
  | e :: es => insideOps s inside e ++ insideOpsArgs s inside es

end

/-- Is this an `and`, or is either operand left? -/
def sparesOperands (s : Shape) : Expr → Bool
  | .binary op left right _ => op == .and || (!s.drops true left && !s.drops true right)
  | _ => true

variable {s : Shape} {inside : Bool}

theorem mem_insideOpsArgs {o a : Expr} {args : List Expr} (ha : a ∈ args)
    (ho : o ∈ s.insideOps inside a) : o ∈ s.insideOpsArgs inside args := by
  induction args with
  | nil => cases ha
  | cons b bs ih =>
    rcases List.mem_cons.mp ha with rfl | ha
    · exact List.mem_append_left _ ho
    · exact List.mem_append_right _ (ih ha)

theorem insideOps_cond (test ifTrue ifFalse : Expr) (t : Ty) :
    s.insideOps inside (.cond test ifTrue ifFalse t) =
      if s.yields (.visited inside) test ifTrue ifFalse then s.insideOps true ifFalse
      else s.insideOps inside test ++ s.insideOps inside ifTrue
        ++ s.insideOps inside ifFalse := rfl

/-! ### Choices that give way -/

theorem yields_guard {test ifTrue ifFalse path : Expr} {part : Part}
    (h : s.guard? test ifTrue ifFalse = some (path, part)) :
    s.yields (.visited inside) test ifTrue ifFalse = true := by
  simp only [yields, h, Option.isSome_some, Bool.true_or]

theorem yields_nullCheck {test ifTrue ifFalse : Expr} (h : test.isNullCheck = true) :
    s.yields (.visited true) test ifTrue ifFalse = true := by
  simp only [yields, h, Bool.and_self, Bool.or_true]

theorem not_yields {test ifTrue ifFalse : Expr} (h : s.guard? test ifTrue ifFalse = none)
    (hkeep : ¬(inside = true ∧ test.isNullCheck = true)) :
    s.yields (.visited inside) test ifTrue ifFalse = false := by
  rw [yields, h, Option.isSome_none, Bool.false_or]
  exact Bool.eq_false_iff.mpr (fun hb => hkeep (Bool.and_eq_true_iff.mp hb))

theorem isNullCheck_of_yields {test ifTrue ifFalse : Expr}
    (h : s.yields (.visited inside) test ifTrue ifFalse = true) : test.isNullCheck = true := by
  rcases Bool.or_eq_true_iff.mp h with hg | hnull
  · obtain ⟨⟨path, part⟩, hg⟩ := Option.isSome_iff_exists.mp hg
    exact isNullCheck_of_guard? hg
  · exact (Bool.and_eq_true_iff.mp hnull).2

/-! ### Steps that are harmless -/

/-- A test that goes with a guard, or a test for not-null that is dropped, does not meet two
    nulls. -/
def Harmless (t : Table) (s : Shape) (st : Step) : Prop :=
  st.region = .guardTest ∨ (st.region = .visited true ∧ s.isCompanion st.op st.left st.right = true)
    → st.meetsTwoNulls t = false

variable {t : Table}

/-- **A choice that gives way**, if its test is harmless, has the value of its second branch, and
    goes through the steps of that. -/
theorem value_of_yields {test ifTrue ifFalse : Expr} {ty : Ty} {env : Scope} {v : Value}
    (hy : s.yields (.visited inside) test ifTrue ifFalse = true)
    (hs : ∀ st ∈ t.steps s (.visited inside) (.cond test ifTrue ifFalse ty) env, Harmless t s st)
    (hv : t.eval (.cond test ifTrue ifFalse ty) env = .ok v) :
    t.eval ifFalse env = .ok v
      ∧ ∀ st ∈ t.steps s (.visited true) ifFalse env, Harmless t s st := by
  -- whatever the choice is, its test compares some path with null
  obtain ⟨path, hpath⟩ := Option.isSome_iff_exists.mp (isNullCheck_of_yields hy)
  obtain ⟨nt, t', rfl⟩ := Expr.nullChecked?_eq_some.mp hpath
  rw [Table.steps_cond, if_pos hy, List.forall_mem_append] at hs
  rw [Table.eval_cond] at hv
  obtain ⟨w, hw, hv⟩ := bind_eq_ok.mp hv
  obtain ⟨l, hl, hlw⟩ := bind_eq_ok.mp ((t.eval_plain env (by decide) _ _ _).symm.trans hw)
  -- two nulls would have met there
  have hnull : l.isNull = false := by
    have hstep : (t.isNullAt path env && true) = false := hs.1 _ List.mem_cons_self (.inl rfl)
    rw [Bool.and_true] at hstep
    cases l with
    | null =>
      rw [Table.isNullAt_eq_true.mpr hl] at hstep
      cases hstep
    | _ => rfl
  have hfalse : w = .bool false := by
    cases hlw
    rw [Value.equals_null, hnull]
  rw [hw, hfalse] at hs
  rw [hfalse] at hv
  exact ⟨hv, hs.2⟩

/-! ### Operations that lose an operand -/

/-- An `and` that its left operand does not settle reads the right one. -/
theorem right_of_logic_and {a v : Value} {right : Except Fault Value}
    (ha : Table.settles .and (.ok a) = false) (hv : Table.logic .and right a = .ok v) :
    ∃ b l r, right = .ok b ∧ a.truth = .ok l ∧ b.truth = .ok r
      ∧ v = Value.ofTruth (Value.joinTruth false l r) := by
  obtain ⟨l, hl, hv⟩ := bind_eq_ok.mp hv
  -- a false operand would have settled the operator
  have hne : l ≠ some (Value.decisive .and) := by
    rintro rfl
    cases a with
    | bool b =>
      cases hl
      cases ha
    | _ => cases hl
  rw [if_neg hne] at hv
  obtain ⟨b, hb, hv⟩ := bind_eq_ok.mp hv
  obtain ⟨r, hr, hv⟩ := bind_eq_ok.mp hv
  cases hv
  exact ⟨b, l, r, hb, hl, hr, rfl⟩

/-- An `and` of which the left operand can only be true has the value of the right one. -/
theorem value_of_leftTrue {left right : Expr} {ty : Ty} {env : Scope} {v : Value}
    (hl : ∀ a, t.eval left env = .ok a → a = .bool true)
    (hv : t.eval (.binary .and left right ty) env = .ok v) :
    Table.settles .and (t.eval left env) = false ∧ t.eval right env = .ok v := by
  rw [t.eval_logical env rfl] at hv
  obtain ⟨a, ha, hv⟩ := bind_eq_ok.mp hv
  cases hl a ha
  obtain ⟨b, l, r, hb, hl, hr, rfl⟩ := right_of_logic_and rfl hv
  cases hl
  rw [ha, hb]
  refine ⟨rfl, ?_⟩
  match b with
  | .null | .bool true | .bool false => cases hr; rfl
  | .int64 _ | .float64 _ | .string _ | .record _ | .list _ => cases hr

/-- An `and` of which the right operand can only be true has the value of the left one. -/
theorem value_of_rightTrue {left right : Expr} {ty : Ty} {env : Scope} {v : Value}
    (hr : Table.settles .and (t.eval left env) = false →
      ∀ b, t.eval right env = .ok b → b = .bool true)
    (hv : t.eval (.binary .and left right ty) env = .ok v) : t.eval left env = .ok v := by
  rw [t.eval_logical env rfl] at hv
  obtain ⟨a, ha, hv⟩ := bind_eq_ok.mp hv
  rw [ha] at hr
  rw [ha]
  match a with
  | .bool false => exact hv
  | .null | .bool true =>
    obtain ⟨b, l, r, hb, hl, hr', rfl⟩ := right_of_logic_and rfl hv
    cases hr rfl b hb
    cases hl
    cases hr'
    rfl
  | .int64 _ | .float64 _ | .string _ | .record _ | .list _ => exact nomatch hv

/-- What a null literal follows can only be null. -/
theorem null_of_follows {e e' : Expr} {env : Scope} {v : Value}
    (h : Follows (t.eval e env) (t.eval e' env)) (he : t.eval e env = .ok v)
    (hnull : e'.isNullLiteral = true) : v = .null := by
  obtain ⟨nt, rfl⟩ : ∃ nt, e' = .const .null nt := by
    unfold Expr.isNullLiteral at hnull
    split at hnull
    · exact ⟨_, rfl⟩
    · cases hnull
  cases h v he
  rfl

theorem isCompanion_op {op : BinOp} {left right : Expr} (h : s.isCompanion op left right = true) :
    op = .notEqual := beq_iff_eq.mp (Bool.and_eq_true_iff.mp h).1

/-- A test for not-null that is dropped, if it is harmless, is true. -/
theorem value_of_companion {left right : Expr} {ty : Ty} {env : Scope} {v : Value}
    (hc : s.isCompanion .notEqual left right = true)
    (hl : Follows (t.eval left env) (t.eval (s.swept true left) env))
    (hr : Follows (t.eval right env) (t.eval (s.swept true right) env))
    (hnot : (t.isNullAt left env && t.isNullAt right env) = false)
    (hv : t.eval (.binary .notEqual left right ty) env = .ok v) : v = .bool true := by
  obtain ⟨a, ha, hv⟩ := bind_eq_ok.mp ((t.eval_plain env (by decide) _ _ _).symm.trans hv)
  obtain ⟨b, hb, hv⟩ := bind_eq_ok.mp hv
  cases hv
  -- one side is null, so that the other one is not
  rcases Bool.or_eq_true_iff.mp (Bool.and_eq_true_iff.mp hc).2 with hleft | hright
  · cases null_of_follows hl ha hleft
    rw [Table.isNullAt_eq_true.mpr ha, Bool.true_and] at hnot
    rw [Value.null_equals, ← Table.isNullAt_of_eval hb, hnot]
    rfl
  · cases null_of_follows hr hb hright
    rw [Table.isNullAt_eq_true.mpr hb, Bool.and_true] at hnot
    rw [Value.equals_null, ← Table.isNullAt_of_eval ha, hnot]
    rfl

/-! ### The simulation -/

/-- A node that gives way to a part of it may be exchanged for what follows the part. -/
theorem carries_of_part {r r' : Region} {old part new : Expr} {H : Step → Prop}
    (hpart : ∀ env v, (∀ st ∈ t.steps s r old env, H st) → t.eval old env = .ok v →
      t.eval part env = .ok v ∧ ∀ st ∈ t.steps s r' part env, H st)
    (hfn : ∀ v env, ∃ f, t.applyFn old v env = .error f) (h : Carries t s r' H part new) :
    Carries t s r H old new := by
  constructor
  · intro env hs v hv
    obtain ⟨hv, hs⟩ := hpart env v hs hv
    exact h.eval env hs v hv
  · intro v env hs
    obtain ⟨f, hf⟩ := hfn v env
    rw [hf]
    exact Follows.of_error _ _

/-- A conversion to a nullable truth value changes no value. -/
theorem applyUnary_convert {ty : Ty} (h : ty.isOptionBool = true) (v : Value) :
    Value.applyUnary .convert ty v = .ok v := by
  unfold Ty.isOptionBool at h
  split at h
  · cases v <;> rfl
  · cases h

/-- The operations of the operands, which the pass visits in the mode of the operation. -/
theorem insideOps_operands {op : BinOp} {left right : Expr} {ty : Ty} {P : Expr → Prop}
    (h : ∀ o ∈ s.insideOps inside (.binary op left right ty), P o) :
    (∀ o ∈ s.insideOps inside left, P o) ∧ ∀ o ∈ s.insideOps inside right, P o :=
  List.forall_mem_append.mp (List.forall_mem_append.mp h).2

/-- Inside a guard an operation that loses an operand is an `and`, as long as operands are
    spared. -/
theorem op_eq_and {op : BinOp} {left right : Expr} {ty : Ty}
    (h : ∀ o ∈ s.insideOps true (.binary op left right ty), s.sparesOperands o = true)
    (hdrop : s.drops true left = true ∨ s.drops true right = true) : op = .and := by
  have ho : s.sparesOperands (.binary op left right ty) = true := h _ List.mem_cons_self
  rcases Bool.or_eq_true_iff.mp ho with hand | hboth
  · exact beq_iff_eq.mp hand
  · rcases hdrop with hd | hd <;> simp [hd] at hboth

/-- **The simulation.**  As long as inside of guards only `and` loses operands, what is left of a
    tree follows the tree wherever its evaluation is harmless. -/
theorem carries_swept (t : Table) (s : Shape) (inside : Bool) (e : Expr)
    (hops : ∀ o ∈ s.insideOps inside e, s.sparesOperands o = true) :
    Carries t s (.visited inside) (Harmless t s) e (s.swept inside e) := by
  -- nodes that stay are carried by their parts; nodes that give way are settled by their value
  induction inside, e using s.inductSwept with
  | leaf inside e he =>
    rw [swept_leaf he]
    exact Carries.refl e
  | member inside owner n ty ih =>
    rw [swept_member]
    exact (ih hops).member n ty
  | callOn inside receiver m args ty ihr ih =>
    obtain ⟨hreceiver, hargs⟩ := List.forall_mem_append.mp hops
    rw [swept_callOn]
    exact (ihr hreceiver).callOn m ty
      (fun a ha => ih a ha (fun o ho => hargs o (mem_insideOpsArgs ha ho)))
  | call inside m args ty ih =>
    rw [swept_call]
    exact Carries.call m ty (fun a ha => ih a ha (fun o ho => hops o (mem_insideOpsArgs ha ho)))
  | lambda inside params body ih =>
    rw [swept_lambda]
    exact (ih hops).lambda params
  | unary inside op operand ty hu ih =>
    rw [swept_unary hu]
    exact (ih hops).unary op ty
  | stripped operand ty hty ih =>
    rw [(givesWay_stripped hty).1]
    have hvalue : ∀ env v, t.eval (.unary .convert operand ty) env = .ok v →
        t.eval operand env = .ok v := by
      intro env v hv
      obtain ⟨w, hw, hv⟩ := bind_eq_ok.mp ((t.eval_unary env _ _ _).symm.trans hv)
      rw [applyUnary_convert hty] at hv
      cases hv
      exact hw
    exact carries_of_part (fun env v hs hv => ⟨hvalue env v hv, hs⟩) (fun _ _ => ⟨_, rfl⟩)
      (ih hops)
  | outside op left right ty ihl ihr =>
    obtain ⟨hleft, hright⟩ := insideOps_operands hops
    obtain ⟨ty', hswept⟩ := swept_outside (s := s) op left right ty
    rw [hswept]
    exact Carries.binary op ty ty' (ihl hleft) (ihr hright)
  | bothLeft op left right ty hl hr hc ihl ihr =>
    obtain ⟨hleft, hright⟩ := insideOps_operands hops
    obtain ⟨ty', hswept⟩ := swept_inside (t := ty) hl hr hc
    rw [hswept]
    exact Carries.binary op ty ty' (ihl hleft) (ihr hright)
  | leftDropped op left right ty hl ihl ihr =>
    obtain ⟨hleft, hright⟩ := insideOps_operands hops
    cases op_eq_and hops (.inl hl)
    rw [(givesWay_leftDropped hl).1]
    refine carries_of_part (fun env v hs hv => ?_) (fun _ _ => ⟨_, rfl⟩) (ihr hright)
    obtain ⟨_, hsleft, hsright⟩ := Table.forall_steps_binary hs
    -- what follows the left operand is the literal `true`
    have htrue : ∀ a, t.eval left env = .ok a → a = .bool true := by
      intro a ha
      have hfollows := (ihl hleft).eval env hsleft a ha
      rw [swept_of_drops hl] at hfollows
      cases hfollows
      rfl
    obtain ⟨hsettles, hv⟩ := value_of_leftTrue htrue hv
    exact ⟨hv, hsright hsettles⟩
  | rightDropped op left right ty hl hr ihl ihr =>
    obtain ⟨hleft, hright⟩ := insideOps_operands hops
    cases op_eq_and hops (.inr hr)
    rw [(givesWay_rightDropped hl hr).1]
    refine carries_of_part (fun env v hs hv => ?_) (fun _ _ => ⟨_, rfl⟩) (ihl hleft)
    obtain ⟨_, hsleft, hsright⟩ := Table.forall_steps_binary hs
    refine ⟨value_of_rightTrue (fun hsettles b hb => ?_) hv, hsleft⟩
    -- the right operand is dropped, so that the literal `true` follows it
    have hfollows := (ihr hright).eval env (hsright hsettles) b hb
    rw [swept_of_drops hr] at hfollows
    cases hfollows
    rfl
  | companion op left right ty hl hr hc ihl ihr =>
    obtain ⟨hleft, hright⟩ := insideOps_operands hops
    rw [swept_of_drops (drops_companion hl hr hc)]
    cases isCompanion_op hc
    refine ⟨fun env hs v hv => ?_, fun _ _ _ => Follows.of_error _ _⟩
    obtain ⟨hself, hsleft, hsright⟩ := Table.forall_steps_binary hs
    have hnot : (t.isNullAt left env && t.isNullAt right env) = false := hself (.inr ⟨rfl, hc⟩)
    cases value_of_companion hc ((ihl hleft).eval env hsleft)
      ((ihr hright).eval env (hsright (Table.settles_plain (by decide) _))) hnot hv
    rfl
  | ownerGuard inside test ifTrue owner u ty path hg ih =>
    rw [insideOps_cond, if_pos (yields_guard hg)] at hops
    rw [(givesWay_ownerGuard hg).1]
    refine carries_of_part (fun env v hs hv => ?_) (fun _ _ => ⟨_, rfl⟩) (ih hops)
    obtain ⟨hv, hs⟩ := value_of_yields (yields_guard hg) hs hv
    refine ⟨?_, hs⟩
    -- a wrapper that is read holds the value that it is
    obtain ⟨w, hw, hv⟩ := bind_eq_ok.mp ((t.eval_member env _ _ _).symm.trans hv)
    cases w <;> first | (cases hv; exact hw) | cases hv
  | wholeGuard inside test ifTrue ifFalse ty path hg ih =>
    rw [insideOps_cond, if_pos (yields_guard hg)] at hops
    rw [(givesWay_wholeGuard hg).1]
    exact carries_of_part (fun env v hs hv => value_of_yields (yields_guard hg) hs hv)
      (fun _ _ => ⟨_, rfl⟩) (ih hops)
  | collapsed test ifTrue ifFalse ty hg hnull ih =>
    rw [insideOps_cond, if_pos (yields_nullCheck hnull)] at hops
    rw [(givesWay_collapsed hg hnull).1]
    exact carries_of_part (fun env v hs hv => value_of_yields (yields_nullCheck hnull) hs hv)
      (fun _ _ => ⟨_, rfl⟩) (ih hops)
  | cond inside test ifTrue ifFalse ty hg hkeep iha ihb ihc =>
    have hstays := not_yields (s := s) hg hkeep
    rw [insideOps_cond, if_neg (by simp [hstays]), List.forall_mem_append,
      List.forall_mem_append] at hops
    rw [swept_cond hg hkeep]
    exact Carries.cond ty hstays (iha hops.1.1) (ihb hops.1.2) (ihc hops.2)

end Shape

/-! ### The value of what is left -/

/-- **Erasing keeps the value.**  Suppose the value of a tree is found without an equality that
    meets null on both sides.  Then an erasure that takes operands away only from `and`, as far
    as it is inside of guards, leaves a tree of the same value. -/
theorem eval_erasures {t : Table} {e : Expr} {env : Scope} {v : Value}
    (hv : t.eval e env = .ok v) (hnulls : ∀ st ∈ t.trace e env, st.meetsTwoNulls t = false) :
    ((∀ o ∈ Shape.member.insideOps false e, Shape.member.sparesOperands o = true) →
        t.eval (eraseMemberGuards e) env = .ok v)
      ∧ ((∀ o ∈ Shape.method.insideOps false e, Shape.method.sparesOperands o = true) →
        t.eval (eraseMethodGuards e) env = .ok v)
      ∧ ((∀ o ∈ Shape.both.insideOps false e, Shape.both.sparesOperands o = true) →
        t.eval (eraseGuards e) env = .ok v) := by
  have hshape : ∀ s : Shape, (∀ o ∈ s.insideOps false e, s.sparesOperands o = true) →
      t.eval (s.erase e) env = .ok v := by
    intro s hops
    -- a step of the pass meets two nulls exactly if the same step of the trace does
    refine (s.carries_swept t false e hops).eval env (fun st hst _ => ?_) v hv
    show (st.move .passedOver).meetsTwoNulls t = false
    exact hnulls _ (Table.move_mem_trace hst)
  exact ⟨hshape .member, hshape .method, hshape .both⟩

namespace Samples

/-- Two people with names, one of them with a flag. -/
def people : Table :=
  ⟨"people",
    [.ofFields [("Flag", .bool true), ("Name", .string "Ann")],
     .ofFields [("Flag", .bool false), ("Name", .string "Bo")]]⟩

/-- `count(people, p => …)`, where the condition is a guard over `p.Name != null && p.Flag`. -/
def countGuarded : Expr :=
  .callNamed "count" [.source "people" personTy, condition guardWithCheck] .int64

end Samples

/-- A count over rows, with a guard in its condition that goes together with a test for
    not-null. -/
theorem eval_erasures_countGuarded :
    Samples.people.eval Samples.countGuarded {} = .ok (.int64 1)
      ∧ (∀ st ∈ Samples.people.trace Samples.countGuarded {},
        st.meetsTwoNulls Samples.people = false)
      ∧ Samples.people.eval (eraseMemberGuards Samples.countGuarded) {} = .ok (.int64 1)
      ∧ Samples.people.eval (eraseMethodGuards Samples.countGuarded) {} = .ok (.int64 1)
      ∧ Samples.people.eval (eraseGuards Samples.countGuarded) {} = .ok (.int64 1) := by
  have hv : Samples.people.eval Samples.countGuarded {} = .ok (.int64 1) := by rfl
  have hnulls : ∀ st ∈ Samples.people.trace Samples.countGuarded {},
      st.meetsTwoNulls Samples.people = false := by decide
  obtain ⟨hmember, hmethod, hboth⟩ := eval_erasures hv hnulls
  exact ⟨hv, hnulls, hmember (by decide), hmethod (by decide), hboth (by decide)⟩

end GuardErasure
