import GuardErasure.Proofs.Eval.Carry
import GuardErasure.Proofs.Guard.Kept
import GuardErasure.Samples

namespace GuardErasure

/-!
# Filters where guarded paths are null

Where the path of a member guard is null, the guard is false and what is left of it is null.  Values
change, but no filter does:

* `Expr.memberGuard` — the guards, whatever the stored types, with `Shape.guard?_memberGuard` and
  `Table.eval_memberGuard` for what the pass and the evaluator make of one;
* `GuardedCondition` — conditions put together from member guards, and from anything without one, by
  `and` and `or`;
* `Value.Fades` — the relation between the values: null may stand where false stood.  Both operators
  keep it (`Value.Fades.logic`), and no verdict tells its sides apart (`Value.Fades.verdict_eq`);
* `Table.fades_eraseMemberGuards` — so the value of a guarded condition fades at most, and
  `eval_filtered_guardedCondition` says what that means for a filter.
-/

/-- The guard `path == null ? false : path.Value`, with any types stored in it. -/
def Expr.memberGuard (path : Expr) (nullTy testTy valueTy ty : Ty) : Expr :=
  .cond (.binary .equal path (.const .null nullTy) testTy) (.const (.bool false) .bool)
    (.member path .wrappedValue valueTy) ty

/-- A condition that is put together by `and` and `or` from member guards, each on a path in which
    nothing gives way, and from conditions without a member guard. -/
inductive GuardedCondition : Expr → Prop where
  | guard {path : Expr} {nullTy testTy valueTy ty : Ty}
      (hguard : Shape.member.isGuard (path.memberGuard nullTy testTy valueTy ty) = true)
      (hpath : ∀ n ∈ path.nodes, n.mayGiveWay = false) :
      GuardedCondition (path.memberGuard nullTy testTy valueTy ty)
  | plain {e : Expr} (h : ∀ n ∈ e.nodes, Shape.member.isGuard n = false) : GuardedCondition e
  | joined {op : BinOp} {left right : Expr} {ty : Ty} (hop : op.family = .logical)
      (hleft : GuardedCondition left) (hright : GuardedCondition right) :
      GuardedCondition (.binary op left right ty)

/-! ### Member guards -/

namespace Shape

variable {path : Expr} {nullTy testTy valueTy ty : Ty}

/-- What the pass finds at a member guard. -/
theorem guard?_memberGuard
    (h : Shape.member.isGuard (path.memberGuard nullTy testTy valueTy ty) = true) :
    Shape.member.guard? (.binary .equal path (.const .null nullTy) testTy)
      (.const (.bool false) .bool) (.member path .wrappedValue valueTy) = some (path, .owner) := by
  obtain ⟨⟨tested, part⟩, hg⟩ := Option.isSome_iff_exists.mp h
  have htested : some path = some tested := (guard?_eq_some hg).1
  cases htested
  cases part with
  | owner => exact hg
  | whole =>
    -- only calls are left whole
    obtain ⟨_, _, _, _, hcall⟩ | ⟨_, _, _, hcall⟩ := guard?_whole hg <;> cases hcall

/-- **What is left of a member guard** is what is left of its path inside a guard. -/
theorem eraseMemberGuards_memberGuard
    (h : Shape.member.isGuard (path.memberGuard nullTy testTy valueTy ty) = true) :
    eraseMemberGuards (path.memberGuard nullTy testTy valueTy ty)
      = Shape.member.swept true path :=
  (givesWay_ownerGuard (guard?_memberGuard h)).1

end Shape

namespace Table

/-- A member guard has the value of its path, but for a null, in place of which it is false. -/
theorem eval_memberGuard (t : Table) (path : Expr) (nullTy testTy valueTy ty : Ty) (env : Scope) :
    t.eval (path.memberGuard nullTy testTy valueTy ty) env
      = t.eval path env >>= fun v => .ok (if v.isNull then .bool false else v) := by
  rw [Expr.memberGuard, t.eval_cond, t.eval_plain env (by decide), t.eval_member]
  cases hpath : t.eval path env with
  | error f => rfl
  | ok v =>
    -- the test is read off the value, and the path has the same value in the second branch
    show choice _ (Value.readMember path .wrappedValue v) (.bool (v.equals .null)) = _
    rw [Value.equals_null]
    cases v <;> rfl

end Table

/-! ### Truths -/

namespace Value

theorem ofTruth_inj {l r : Option Bool} (h : ofTruth l = ofTruth r) : l = r := by
  cases l <;> cases r <;> cases h <;> rfl

/-- One truth that decides is enough. -/
theorem joinTruth_decided (d : Bool) (r : Option Bool) : joinTruth d (some d) r = some d :=
  if_pos (.inl rfl)

theorem joinTruth_comm (d : Bool) (l r : Option Bool) : joinTruth d l r = joinTruth d r l := by
  simp only [joinTruth, or_comm]

/-! ### Null in place of false -/

/-- `w` is `v`, or it is null and `v` is false. -/
def Fades (v w : Value) : Prop := w = v ∨ (v = .bool false ∧ w = .null)

namespace Fades

variable {v w : Value}

protected theorem refl (v : Value) : v.Fades v := .inl rfl

protected theorem trans {u v w : Value} (huv : u.Fades v) (hvw : v.Fades w) : u.Fades w := by
  rcases hvw with rfl | ⟨rfl, rfl⟩
  · exact huv
  · rcases huv with hu | ⟨_, hnull⟩
    · exact .inr ⟨hu.symm, rfl⟩
    · cases hnull

/-- A predicate says the same of an element whether its value is false or null. -/
theorem verdict_eq (h : v.Fades w) : w.verdict = v.verdict := by
  rcases h with rfl | ⟨rfl, rfl⟩
  · rfl
  · rfl

/-- **One operand fades.**  An operator that was false may be unknown then, and no other value
    changes. -/
theorem joinTruth_right (d : Bool) (l : Option Bool) {r r' : Option Bool}
    (h : (ofTruth r).Fades (ofTruth r')) :
    (ofTruth (joinTruth d l r)).Fades (ofTruth (joinTruth d l r')) := by
  rcases h with heq | ⟨hfalse, hnull⟩
  · rw [ofTruth_inj heq]
    exact .refl _
  · have hr : r = some false := ofTruth_inj hfalse
    have hr' : r' = none := ofTruth_inj hnull
    subst hr hr'
    match d, l with
    | false, some false => exact .inl rfl
    | false, some true => exact .inr ⟨rfl, rfl⟩
    | false, none => exact .inr ⟨rfl, rfl⟩
    | true, some false => exact .inr ⟨rfl, rfl⟩
    | true, some true => exact .inl rfl
    | true, none => exact .inl rfl

/-- Two truths joined fade at most if each of the two does. -/
theorem joinTruth (d : Bool) {l l' r r' : Option Bool} (hl : (ofTruth l).Fades (ofTruth l'))
    (hr : (ofTruth r).Fades (ofTruth r')) :
    (ofTruth (joinTruth d l r)).Fades (ofTruth (joinTruth d l' r')) := by
  have hleft : (ofTruth (Value.joinTruth d l r)).Fades (ofTruth (Value.joinTruth d l' r)) := by
    rw [joinTruth_comm d l r, joinTruth_comm d l' r]
    exact joinTruth_right d r hl
  exact hleft.trans (joinTruth_right d l' hr)

/-- **A logical operator** fades at most if its operands do.  An operand that fades decides nothing
    any more, so that the right operand may be evaluated on one side only. -/
theorem logic {op : BinOp} {left left' v w : Value} {right right' : Except Fault Value}
    (hleft : left.Fades left')
    (hright : ∀ a b, right = .ok a → right' = .ok b → a.Fades b)
    (hv : Table.logic op right left = .ok v) (hw : Table.logic op right' left' = .ok w) :
    v.Fades w := by
  obtain ⟨l, hl, hv⟩ := bind_eq_ok.mp hv
  obtain ⟨l', hl', hw⟩ := bind_eq_ok.mp hw
  rw [eq_ofTruth hl, eq_ofTruth hl'] at hleft
  by_cases hd' : l' = some (decisive op)
  · -- what decides has not faded
    have hd : l = some (decisive op) := by
      subst hd'
      rcases hleft with heq | ⟨_, hnull⟩
      · exact (ofTruth_inj heq).symm
      · cases hnull
    rw [if_pos hd] at hv
    rw [if_pos hd'] at hw
    cases hv
    cases hw
    exact .refl _
  · rw [if_neg hd'] at hw
    obtain ⟨b, hb, hw⟩ := bind_eq_ok.mp hw
    obtain ⟨r', hr', hw⟩ := bind_eq_ok.mp hw
    cases hw
    by_cases hd : l = some (decisive op)
    · -- the value on the left is then the same beside any right operand
      rw [if_pos hd] at hv
      cases hv
      have hjoined := joinTruth (decisive op) hleft (.refl (ofTruth r'))
      rw [hd, joinTruth_decided] at hjoined
      exact hjoined
    · rw [if_neg hd] at hv
      obtain ⟨a, ha, hv⟩ := bind_eq_ok.mp hv
      obtain ⟨r, hr, hv⟩ := bind_eq_ok.mp hv
      cases hv
      have hright := hright a b ha hb
      rw [eq_ofTruth hr, eq_ofTruth hr'] at hright
      exact joinTruth (decisive op) hleft hright

end Fades

end Value

/-! ### Guarded conditions -/

namespace Table

variable {t : Table} {env : Scope} {v w : Value}

/-- A member guard and what is left of it. -/
theorem fades_memberGuard {path : Expr} {nullTy testTy valueTy ty : Ty}
    (hv : t.eval (path.memberGuard nullTy testTy valueTy ty) env = .ok v)
    (hw : t.eval path env = .ok w) : v.Fades w := by
  rw [t.eval_memberGuard, hw] at hv
  cases hv
  cases w with
  | null => exact .inr ⟨rfl, rfl⟩
  | _ => exact .refl _

/-- **The value of a guarded condition** fades at most when its member guards are removed. -/
theorem fades_eraseMemberGuards {body : Expr} (hbody : GuardedCondition body)
    (hv : t.eval body env = .ok v) (hw : t.eval (eraseMemberGuards body) env = .ok w) :
    v.Fades w := by
  -- by induction on how the condition is put together
  induction hbody generalizing v w with
  | guard hguard hpath =>
    rw [Shape.eraseMemberGuards_memberGuard hguard, Shape.swept_inside_eq_self hpath] at hw
    exact fades_memberGuard hv hw
  | @plain e h =>
    have hself : eraseMemberGuards e = e :=
      (Shape.swept_eq_self_iff _ _).mpr (fun n hn => h n (Expr.mem_choices.mp hn).1)
    rw [hself, hv] at hw
    cases hw
    exact .refl _
  | @joined op left right ty hop _ _ ihl ihr =>
    obtain ⟨ty', hswept⟩ := Shape.swept_outside (s := .member) op left right ty
    rw [eraseMemberGuards, Shape.erase_eq_swept, hswept, t.eval_logical env hop] at hw
    rw [t.eval_logical env hop] at hv
    obtain ⟨a, ha, hv⟩ := bind_eq_ok.mp hv
    obtain ⟨b, hb, hw⟩ := bind_eq_ok.mp hw
    exact (ihl ha hb).logic (fun _ _ => ihr) hv hw

end Table

/-! ### Filters -/

/-- Two tests that agree wherever both have an answer keep the same elements. -/
theorem Value.keepWhere_eq_of_agree {p q : Value → Except Fault Bool}
    {items kept kept' : List Value} (h : ∀ v b c, p v = .ok b → q v = .ok c → b = c)
    (hp : Value.keepWhere p items = .ok kept) (hq : Value.keepWhere q items = .ok kept') :
    kept = kept' := by
  induction items generalizing kept kept' with
  | nil =>
    cases hp
    cases hq
    rfl
  | cons v vs ih =>
    obtain ⟨b, hb, hp⟩ := bind_eq_ok.mp hp
    obtain ⟨c, hc, hq⟩ := bind_eq_ok.mp hq
    cases h v b c hb hc
    cases b with
    | false => exact ih hp hq
    | true =>
      obtain ⟨rest, hrest, hp⟩ := bind_eq_ok.mp hp
      obtain ⟨rest', hrest', hq⟩ := bind_eq_ok.mp hq
      cases hp
      cases hq
      rw [ih hrest hrest']

/-- What a filter that succeeds has done: its sequence is a list of rows, and it has kept those that
    the condition accepts. -/
theorem Table.eval_filtered {t : Table} {seq body : Expr} {x : String} {env : Scope} {v : Value}
    (h : t.eval (seq.filtered (.lambda [x] body)) env = .ok v) :
    ∃ rows kept, t.eval seq env = .ok (.list rows)
      ∧ Value.keepWhere (fun row => t.eval body (env.bind x row) >>= Value.verdict) rows
        = .ok kept
      ∧ v = .list kept := by
  have hcall := (t.eval_call_two env (.free QueryOp.filter.name) seq (.lambda [x] body) []
    seq.ty).symm.trans h
  obtain ⟨s, hs, hcall⟩ := bind_eq_ok.mp hcall
  obtain ⟨rows, hrows, hcall⟩ := bind_eq_ok.mp hcall
  obtain ⟨kept, hkept, hv⟩ := bind_eq_ok.mp hcall
  cases hv
  rw [Value.eq_list_of_elements hrows] at hs
  exact ⟨rows, kept, hs, hkept, rfl⟩

/-- **Filters do not tell.**  Where filtering by a guarded condition succeeds, and so does filtering
    by what is left of it without its member guards, both keep the same rows, whatever paths are
    null in them. -/
theorem eval_filtered_guardedCondition (t : Table) {body : Expr} (hbody : GuardedCondition body)
    (seq : Expr) (x : String) (env : Scope) {kept kept' : Value}
    (h : t.eval (seq.filtered (.lambda [x] body)) env = .ok kept)
    (h' : t.eval (seq.filtered (.lambda [x] (eraseMemberGuards body))) env = .ok kept') :
    kept = kept' := by
  obtain ⟨rows, items, hrows, hitems, rfl⟩ := Table.eval_filtered h
  obtain ⟨rows', items', hrows', hitems', rfl⟩ := Table.eval_filtered h'
  -- both read the same rows
  rw [hrows] at hrows'
  cases hrows'
  refine congrArg Value.list (Value.keepWhere_eq_of_agree (fun row b c hb hc => ?_) hitems hitems')
  obtain ⟨v, hv, hb⟩ := bind_eq_ok.mp hb
  obtain ⟨w, hw, hc⟩ := bind_eq_ok.mp hc
  have hfades : v.Fades w := Table.fades_eraseMemberGuards hbody hv hw
  rw [hfades.verdict_eq, hb] at hc
  cases hc
  rfl

namespace Samples

/-- Two people with flags, and two without, one of whom has no name either. -/
def fewFlags : Table :=
  ⟨"people",
    [row (some "Ann") (some true) none, row (some "Bo") none none,
      row (some "Cy") (some false) none, row none none none]⟩

/-- `p?.Flag && p.Name == "Ann" || (p?.Flag || p.Name == "Bo")` -/
def flaggedOrBo : Expr :=
  (flagGuard.combine .and (name.combine .equal (.ofValue (.string "Ann")))).combine .or
    (flagGuard.combine .or (name.combine .equal (.ofValue (.string "Bo"))))

/-- The people. -/
def allPeople : Expr := .source "people" personTy

end Samples

/-- Ann and Bo are kept with and without the guards, although for the last of the people the
    condition is false with them and null without. -/
theorem eval_filtered_flaggedOrBo :
    GuardedCondition Samples.flaggedOrBo
      ∧ (∃ kept kept',
        Samples.fewFlags.eval
            (Samples.allPeople.filtered (.lambda ["p"] Samples.flaggedOrBo)) {} = .ok kept
          ∧ Samples.fewFlags.eval
            (Samples.allPeople.filtered
              (.lambda ["p"] (eraseMemberGuards Samples.flaggedOrBo))) {} = .ok kept'
          ∧ kept = kept' ∧ kept.toList?.map List.length = some 2)
      ∧ Samples.fewFlags.applyFn (.lambda ["p"] Samples.flaggedOrBo) (Samples.row none none none) {}
        = .ok (.bool false)
      ∧ Samples.fewFlags.applyFn (.lambda ["p"] (eraseMemberGuards Samples.flaggedOrBo))
        (Samples.row none none none) {} = .ok .null := by
  have hflag : GuardedCondition Samples.flagGuard := .guard (by decide) (by decide)
  have hbody : GuardedCondition Samples.flaggedOrBo :=
    .joined rfl (.joined rfl hflag (.plain (by decide)))
      (.joined rfl hflag (.plain (by decide)))
  have hsame := eval_filtered_guardedCondition Samples.fewFlags hbody Samples.allPeople "p" {}
    rfl rfl
  exact ⟨hbody, ⟨_, _, rfl, rfl, hsame, rfl⟩, rfl, rfl⟩

end GuardErasure
