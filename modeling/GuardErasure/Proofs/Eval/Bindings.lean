import GuardErasure.Proofs.Eval.Follow
import GuardErasure.Proofs.Expr.Tree

namespace GuardErasure

/-!
# What evaluation reads of a scope

A scope is a list of bindings, which every function adds to when it is passed an element.  What an
expression comes to depends on little of it, the bindings that its free parameters lead to:

* `Expr.free` — the free parameters of an expression: a function binds its own ones in its body;
* `Scope.AgreeOn` — two scopes with the same values for some names, which one more binding on both
  sides keeps;
* `Table.SameIn` — an expression that comes to the same in two scopes, with the same fault if it fails;
* `Table.sameIn_of_agreeOn` — by induction over the tree, an expression comes to the same in scopes that
  agree on its free parameters;
* `Expr.Unread`, `Scope.agreeOn_within` — the names that an expression does not read behind some
  bindings, and scopes that differ there in such names only;
* `Table.eval_bindings` — the agreement again, and what it says of bindings that are added, hidden or
  put in another order.
-/

/-! ### Free parameters -/

namespace Expr

mutual

/-- The names of the parameters that occur in an expression outside every function that binds them.  A
    function that is passed to no operator binds its parameters as well: nothing in it is evaluated. -/
def free : Expr → List String
  | param name _ => [name]
  | member owner _ _ => owner.free
  | callOn receiver _ args _ => receiver.free ++ freeOf args
  | call _ args _ => freeOf args
  | unary _ operand _ => operand.free
  | binary _ left right _ => left.free ++ right.free
  | cond test ifTrue ifFalse _ => test.free ++ ifTrue.free ++ ifFalse.free
  | lambda params body => body.free.filter (· ∉ params)
  | const .. | root .. | source .. | foreign .. => []

/-- The free parameters of several expressions. -/
def freeOf : List Expr → List String
  | [] => []
  | e :: es => e.free ++ freeOf es

end

/-- A function does not leave free what it binds. -/
theorem mem_free_lambda {params : List String} {body : Expr} {name : String} :
    name ∈ (lambda params body).free ↔ name ∈ body.free ∧ name ∉ params := by
  simp [free]

end Expr

/-! ### Agreement -/

namespace Scope

/-- Do two scopes have the same values for these names, or none? -/
def AgreeOn (names : List String) (env env' : Scope) : Prop :=
  ∀ n ∈ names, env.lookup? n = env'.lookup? n

namespace AgreeOn

variable {names others : List String} {env env' : Scope}

theorem mono (h : AgreeOn names env env') (hsub : others ⊆ names) : AgreeOn others env env' :=
  fun n hn => h n (hsub hn)

theorem left (h : AgreeOn (names ++ others) env env') : AgreeOn names env env' :=
  h.mono (List.subset_append_left _ _)

theorem right (h : AgreeOn (names ++ others) env env') : AgreeOn others env env' :=
  h.mono (List.subset_append_right _ _)

end AgreeOn

theorem lookup?_bind (env : Scope) (n m : String) (v : Value) :
    (env.bind n v).lookup? m = if m = n then some v else env.lookup? m := by
  simp only [lookup?, bind, List.lookup_cons]
  by_cases hmn : m = n
  · simp [hmn]
  · simp [hmn, beq_eq_false_iff_ne.mpr hmn]

/-- Under a binder, scopes that agree on what the function leaves free agree on what its body does. -/
theorem AgreeOn.bind {n : String} {body : Expr} {env env' : Scope}
    (h : AgreeOn (Expr.lambda [n] body).free env env') (v : Value) :
    AgreeOn body.free (env.bind n v) (env'.bind n v) := by
  intro m hm
  rw [lookup?_bind, lookup?_bind]
  by_cases hmn : m = n
  · rw [if_pos hmn, if_pos hmn]
  · rw [if_neg hmn, if_neg hmn]
    exact h m (Expr.mem_free_lambda.mpr ⟨hm, by simpa using hmn⟩)

end Scope

namespace Table

/-- Does `e` come to the same in two scopes, on its own and as a function of one parameter?  It does not
    if the faults differ. -/
structure SameIn (t : Table) (e : Expr) (env env' : Scope) : Prop where
  value : t.eval e env = t.eval e env'
  result : ∀ v, t.applyFn e v env = t.applyFn e v env'

/-- Only functions, quoted or not, have results. -/
theorem SameIn.of_value {t : Table} {e : Expr} {env env' : Scope} (hvalue : t.eval e env = t.eval e env')
    (hfault : ∀ v env, t.applyFn e v env = .error (.notALambda e)) : t.SameIn e env env' :=
  ⟨hvalue, fun v => (hfault v env).trans (hfault v env').symm⟩

/-- **An expression comes to the same in scopes that agree on its free parameters.**  A function is
    followed into its body, with one more binding on both sides. -/
theorem sameIn_of_agreeOn (t : Table) {e : Expr} {env env' : Scope}
    (h : Scope.AgreeOn e.free env env') : t.SameIn e env env' := by
  induction e generalizing env env' with
  | const | root | source | foreign => exact .of_value rfl (fun _ _ => rfl)
  | param name ty =>
    have hname : env.lookup? name = env'.lookup? name := h name (by simp [Expr.free])
    refine .of_value ?_ (fun _ _ => rfl)
    simp only [eval, hname]
  | member owner n ty ih =>
    refine .of_value ?_ (fun _ _ => rfl)
    rw [eval_member, eval_member, (ih h).value]
  | unary op operand ty ih =>
    have hoperand := ih h
    have hvalue : t.eval (.unary op operand ty) env = t.eval (.unary op operand ty) env' := by
      rw [eval_unary, eval_unary, hoperand.value]
    cases op with
    | quote => exact ⟨hvalue, hoperand.result⟩
    | _ => exact .of_value hvalue (fun _ _ => rfl)
  | binary op left right ty ihl ihr =>
    have hleft := (ihl h.left).value
    have hright := (ihr h.right).value
    refine .of_value ?_ (fun _ _ => rfl)
    by_cases hop : op.family = .logical
    · rw [eval_logical t _ hop, eval_logical t _ hop, hleft, hright]
    · rw [eval_plain t _ hop, eval_plain t _ hop, hleft, hright]
  | cond test ifTrue ifFalse ty iht ihp ihn =>
    refine .of_value ?_ (fun _ _ => rfl)
    rw [eval_cond, eval_cond, (iht h.left.left).value, (ihp h.left.right).value, (ihn h.right).value]
  | lambda params body ih =>
    -- only a function of one parameter is applied
    cases params with
    | nil => exact .of_value rfl (fun _ _ => rfl)
    | cons n others =>
      cases others with
      | nil => exact ⟨rfl, fun v => (ih (h.bind v)).value⟩
      | cons => exact .of_value rfl (fun _ _ => rfl)
  | callOn receiver m args ty ihr iha =>
    refine .of_value ?_ (fun _ _ => rfl)
    rw [eval_callOn, eval_callOn, (ihr h.left).value]
    cases args with
    | nil => rfl
    | cons arg rest =>
      have harg := (iha arg (by simp) h.right.left).value
      simp only [List.head?_cons, Option.map_some, harg]
  | call m args ty iha =>
    refine .of_value ?_ (fun _ _ => rfl)
    cases args with
    | nil => rfl
    | cons seq rest =>
      have hseq := iha seq (by simp) h.left
      cases rest with
      | nil => rw [eval_call_one, eval_call_one, hseq.value]
      | cons second rest =>
        have hsecond := iha second (by simp) h.right.left
        rw [eval_call_two, eval_call_two, hseq.value, hsecond.value, funext hsecond.result]

/-- An expression without free parameters has its value in every scope. -/
theorem eval_eq_evalClosed (t : Table) {e : Expr} (hclosed : e.free = []) (env : Scope) :
    t.eval e env = t.evalClosed e :=
  (t.sameIn_of_agreeOn (fun n hn => absurd hn (by simp [hclosed]))).value

end Table

/-! ### Bindings that are not read -/

/-- Does `e` read no binding of this name behind the bindings `inner`?  The name is not free in `e`, or
    it is bound in `inner`. -/
def Expr.Unread (e : Expr) (inner : List (String × Value)) (name : String) : Prop :=
  name ∉ e.free ∨ name ∈ inner.map Prod.fst

/-- Bindings in another order, in which just one at most is for `n`. -/
theorem lookup_perm {n : String} {mid mid' : List (String × Value)} (hperm : mid.Perm mid')
    (hone : mid.Pairwise fun b c => b.1 = n → c.1 ≠ n) : mid.lookup n = mid'.lookup n := by
  induction hperm with
  | nil => rfl
  | cons b _ ih => rw [List.lookup_cons, List.lookup_cons, ih hone.of_cons]
  | swap b c rest =>
    obtain ⟨k, v⟩ := b
    obtain ⟨l, w⟩ := c
    have hne : l = n → k ≠ n := (List.pairwise_cons.mp hone).1 (k, v) (by simp)
    simp only [List.lookup_cons]
    by_cases hl : n = l
    · have hk : (n == k) = false := beq_eq_false_iff_ne.mpr (hne hl.symm).symm
      rw [hk]
    · rw [beq_eq_false_iff_ne.mpr hl]
  | trans hfirst _ ih₁ ih₂ =>
    have hsymm : ∀ {b c : String × Value}, (b.1 = n → c.1 ≠ n) → (c.1 = n → b.1 ≠ n) :=
      fun h hc hb => h hb hc
    exact (ih₁ hone).trans (ih₂ ((hfirst.pairwise_iff hsymm).mp hone))

namespace Scope

/-- Two scopes agree if they differ only behind bindings that hide the difference. -/
theorem agreeOn_within {names : List String} {inner mid mid' outer : List (String × Value)}
    (h : ∀ n ∈ names, n ∉ inner.map Prod.fst → mid.lookup n = mid'.lookup n) :
    AgreeOn names ⟨inner ++ mid ++ outer⟩ ⟨inner ++ mid' ++ outer⟩ := by
  intro n hn
  simp only [lookup?, List.lookup_append]
  cases hinner : inner.lookup n with
  | some v => rfl
  | none =>
    have hfree : n ∉ inner.map Prod.fst := by
      rintro hmem
      obtain ⟨b, hb, rfl⟩ := List.mem_map.mp hmem
      exact bne_iff_ne.mp (List.lookup_eq_none_iff.mp hinner b hb) rfl
    rw [h n hn hfree]

end Scope

namespace Table

/-- **Bindings that are never read change nothing**: they are left out, or added, at any depth. -/
theorem sameIn_of_unread (t : Table) {e : Expr} {inner mid : List (String × Value)}
    (outer : List (String × Value)) (h : ∀ b ∈ mid, e.Unread inner b.1) :
    t.SameIn e ⟨inner ++ mid ++ outer⟩ ⟨inner ++ outer⟩ := by
  have hagree : Scope.AgreeOn e.free ⟨inner ++ mid ++ outer⟩ ⟨inner ++ [] ++ outer⟩ := by
    refine Scope.agreeOn_within (fun n hn hinner => ?_)
    refine List.lookup_eq_none_iff.mpr (fun b hb => bne_iff_ne.mpr ?_)
    rintro rfl
    exact (h b hb).elim (· hn) hinner
  simpa using t.sameIn_of_agreeOn hagree

/-- **The order of bindings does not matter** as long as those of a name that is read keep theirs. -/
theorem sameIn_of_perm (t : Table) {e : Expr} {inner mid mid' : List (String × Value)}
    (outer : List (String × Value)) (hperm : mid.Perm mid')
    (h : mid.Pairwise fun b c => b.1 = c.1 → e.Unread inner b.1) :
    t.SameIn e ⟨inner ++ mid ++ outer⟩ ⟨inner ++ mid' ++ outer⟩ := by
  refine t.sameIn_of_agreeOn (Scope.agreeOn_within fun n hn hinner => ?_)
  refine lookup_perm hperm (h.imp fun {b c} hbc hb hc => ?_)
  subst hb
  exact (hbc hc.symm).elim (· hn) hinner

/-- **Evaluation depends only on the innermost bindings of free parameters.**

    * An expression comes to the same, value or fault, in two scopes that agree on its free parameters.
    * A function with this body comes to the same whatever its own parameters are bound to outside.
    * Bindings of names that are not free in the expression, or that are bound further in, may be there
      or not.
    * Bindings may be in any order if no two of them are for one name that the expression reads there. -/
theorem eval_bindings (t : Table) (e : Expr) :
    (∀ env env', Scope.AgreeOn e.free env env' → t.SameIn e env env')
      ∧ (∀ params, ∀ n ∈ params, ∀ w env,
          t.SameIn (.lambda params e) (env.bind n w) env)
      ∧ (∀ inner mid outer, (∀ b ∈ mid, e.Unread inner b.1) →
          t.SameIn e ⟨inner ++ mid ++ outer⟩ ⟨inner ++ outer⟩)
      ∧ ∀ inner mid mid' outer, mid.Perm mid' →
          mid.Pairwise (fun b c => b.1 = c.1 → e.Unread inner b.1) →
          t.SameIn e ⟨inner ++ mid ++ outer⟩ ⟨inner ++ mid' ++ outer⟩ := by
  refine ⟨fun _ _ h => t.sameIn_of_agreeOn h, fun params n hn w env => ?_,
    fun _ _ outer h => t.sameIn_of_unread outer h,
    fun _ _ _ outer hperm h => t.sameIn_of_perm outer hperm h⟩
  -- rebinding `n` is one more binding, of a name that is not free in the function
  have hunread : ∀ b ∈ [(n, w)], (Expr.lambda params e).Unread [] b.1 := by
    simp [Expr.Unread, Expr.mem_free_lambda, hn]
  exact t.sameIn_of_unread env.bindings hunread

end Table

namespace Samples

/-- The numbers up to some ceiling, a free parameter. -/
def upToCeiling : Expr :=
  .callNamed QueryOp.filter.name [.source "numbers" .int64,
    .lambda ["i"] (.binary .lessEq (.param "i" .int64) (.param "ceiling" .int64) .bool)] (.seq .int64)

/-- Three numbers. -/
def threeNumbers : Table := ⟨"numbers", [.int64 1, .int64 3, .int64 2]⟩

end Samples

/-- With the ceiling two the numbers up to it are one and two: whatever another parameter and the
    predicate's own one are bound to outside, before or after the ceiling, and with another ceiling
    further out. -/
theorem Table.eval_bindings_ceiling :
    Samples.upToCeiling.free = ["ceiling"]
      ∧ Samples.threeNumbers.eval Samples.upToCeiling ⟨[("ceiling", .int64 2)]⟩
        = .ok (.list [.int64 1, .int64 2])
      ∧ Samples.threeNumbers.eval Samples.upToCeiling ⟨[("i", .null), ("ceiling", .int64 2)]⟩
        = .ok (.list [.int64 1, .int64 2])
      ∧ Samples.threeNumbers.eval Samples.upToCeiling ⟨[("ceiling", .int64 2), ("ceiling", .null)]⟩
        = .ok (.list [.int64 1, .int64 2])
      ∧ Samples.threeNumbers.eval Samples.upToCeiling ⟨[("ceiling", .int64 2), ("i", .null)]⟩
        = .ok (.list [.int64 1, .int64 2])
      ∧ Samples.threeNumbers.applyFn (.lambda ["ceiling"] Samples.upToCeiling) (.int64 2)
          ⟨[("ceiling", .null)]⟩ = .ok (.list [.int64 1, .int64 2]) := by
  have hplain : Samples.threeNumbers.eval Samples.upToCeiling ⟨[("ceiling", .int64 2)]⟩
      = .ok (.list [.int64 1, .int64 2]) := by rfl
  have hfree : Samples.upToCeiling.free = ["ceiling"] := by rfl
  obtain ⟨hagree, hrebound, hunread, hperm⟩ := eval_bindings Samples.threeNumbers Samples.upToCeiling
  have hearlier : Samples.threeNumbers.SameIn Samples.upToCeiling
      ⟨[("i", .null), ("ceiling", .int64 2)]⟩ ⟨[("ceiling", .int64 2)]⟩ := by
    refine hagree _ _ ?_
    rw [hfree]
    rintro n hn
    obtain rfl := List.mem_singleton.mp hn
    rfl
  have hhidden : Samples.threeNumbers.SameIn Samples.upToCeiling
      ⟨[("ceiling", .int64 2), ("ceiling", .null)]⟩ ⟨[("ceiling", .int64 2)]⟩ :=
    hunread [("ceiling", .int64 2)] [("ceiling", .null)] [] (by simp [Expr.Unread])
  have hswapped : Samples.threeNumbers.SameIn Samples.upToCeiling
      ⟨[("ceiling", .int64 2), ("i", .null)]⟩ ⟨[("i", .null), ("ceiling", .int64 2)]⟩ :=
    hperm [] [("ceiling", .int64 2), ("i", .null)] [("i", .null), ("ceiling", .int64 2)] []
      (List.Perm.swap _ _ _) (by simp)
  have hown := hrebound ["ceiling"] "ceiling" (by simp) .null {}
  refine ⟨hfree, hplain, hearlier.value.trans hplain, hhidden.value.trans hplain,
    hswapped.value.trans (hearlier.value.trans hplain), (hown.result (.int64 2)).trans ?_⟩
  exact hplain

end GuardErasure
