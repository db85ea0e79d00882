import GuardErasure.Proofs.Eval.Follow
import GuardErasure.Proofs.Eval.Steps

namespace GuardErasure

/-!
# Evaluation of trees with other parts

A part of a tree may be exchanged for one that follows it, as far as its evaluation goes through
harmless steps only.

* `Follows.callText`, `Follows.queryWith`, … — what a node makes of values follows if the values
  do;
* `Carries` — the relation between a tree and the one in its place, as expressions and as
  functions; what is harmless is left open;
* `Carries.member`, `Carries.call`, … — it goes through every kind of node.
-/

theorem Value.eq_list_of_elements {v : Value} {items : List Value} (h : v.elements = .ok items) :
    v = .list items := by
  cases v <;> first | (cases h; rfl) | cases h

namespace Follows

/-- A method on another receiver of the same value, with an argument that follows if the method
    reads it. -/
theorem callText {m : Method} {receiver receiver' : Expr}
    {arg arg' : Option (Except Fault Value)} {v : Value} (hnone : arg = none → arg' = none)
    (hsome : Table.readsText m (.ok v) = true →
      ∀ x, arg = some x → ∃ y, arg' = some y ∧ Follows x y) :
    Follows (Table.callText m receiver arg v) (Table.callText m receiver' arg' v) := by
  cases v with
  | string text =>
    simp only [Table.readsText, Table.callText] at hsome ⊢
    cases hm : Value.TextMethod.ofName? m.name with
    | none => exact Follows.refl _
    | some method =>
      cases method with
      | map g => exact Follows.refl _
      | test p =>
        cases arg with
        | none => exact of_error _ _
        | some x =>
          obtain ⟨y, rfl, hxy⟩ := hsome (by rw [hm]) x rfl
          exact hxy.bind (fun _ _ => Follows.refl _)
  | _ => exact of_error _ _

/-- A logical operator with another right operand, which follows where it is evaluated. -/
theorem logic {op : BinOp} {right right' : Except Fault Value} {v : Value}
    (h : Table.settles op (.ok v) = false → Follows right right') :
    Follows (Table.logic op right v) (Table.logic op right' v) := by
  refine (Follows.refl _).bind (fun l hl => ?_)
  by_cases hd : l = some (Value.decisive op)
  · rw [if_pos hd, if_pos hd]
    exact Follows.refl _
  · rw [if_neg hd, if_neg hd]
    refine (h ?_).bind (fun _ _ => Follows.refl _)
    cases v with
    | bool b =>
      cases hl
      simp only [Option.some.injEq] at hd
      simp [Table.settles, hd]
    | _ => rfl

/-- A function on a sequence alone. -/
theorem queryAlone {m : Method} {seq seq' : Except Fault Value}
    (h : (QueryOp.ofName? m.name).isSome = true → Follows seq seq') :
    Follows (Table.queryAlone m seq) (Table.queryAlone m seq') := by
  unfold Table.queryAlone
  cases hm : QueryOp.ofName? m.name with
  | none => exact Follows.refl _
  | some op =>
    have hseq := h (by rw [hm]; rfl)
    cases op <;> first | exact Follows.refl _ | exact hseq.bind (fun _ _ => Follows.refl _)

/-- A function on a sequence and a second argument, of which it reads the count or applies the
    function. -/
theorem queryWith {m : Method} {op : QueryOp} {seq seq' count count' : Except Fault Value}
    {fn fn' : Value → Except Fault Value} (hop : QueryOp.ofName? m.name = some op)
    (hseq : Follows seq seq') (hcount : Table.readsCount op = true → Follows count count')
    (hfn : Table.readsCount op = false →
      ∀ items, seq = .ok (.list items) → ∀ v ∈ items, Follows (fn v) (fn' v)) :
    Follows (Table.queryWith m seq count fn) (Table.queryWith m seq' count' fn') := by
  -- what an operator does with its items follows if it does at each of them
  have hitems : ∀ {α : Type} {k k' : List Value → Except Fault α},
      (∀ items, seq = .ok (.list items) → Follows (k items) (k' items)) →
        Follows (seq >>= fun v => v.elements >>= k) (seq' >>= fun v => v.elements >>= k') := by
    intro α k k' hk
    refine hseq.bind (fun v hv => (Follows.refl _).bind (fun items hi => hk items ?_))
    rw [hv, Value.eq_list_of_elements hi]
  have hkeep : Table.readsCount op = false → ∀ items, seq = .ok (.list items) →
      Follows (Value.keepWhere (fun v => fn v >>= Value.verdict) items)
        (Value.keepWhere (fun v => fn' v >>= Value.verdict) items) := fun hr items hi =>
    keepWhere (fun v hv => (hfn hr items hi v hv).bind (fun _ _ => Follows.refl _))
  simp only [Table.queryWith, hop]
  cases op with
  | filter => exact hitems (fun items hi => (hkeep rfl items hi).bind (fun _ _ => Follows.refl _))
  | map =>
    refine hitems (fun items hi => ?_)
    exact (mapM (hfn rfl items hi)).bind (fun _ _ => Follows.refl _)
  | take | skip =>
    refine (hcount rfl).bind (fun _ _ => (Follows.refl _).bind (fun n _ => ?_))
    exact hseq.bind (fun _ _ => Follows.refl _)
  | count | any | first =>
    exact hitems (fun items hi => (hkeep rfl items hi).bind (fun _ _ => Follows.refl _))

end Follows

/-! ### Trees with other parts -/

/-- Wherever all the steps of `old` are harmless, `new` follows it. -/
structure Carries (t : Table) (s : Shape) (r : Region) (Harmless : Step → Prop)
    (old new : Expr) : Prop where
  eval : ∀ env, (∀ st ∈ t.steps s r old env, Harmless st) →
    Follows (t.eval old env) (t.eval new env)
  applyFn : ∀ v env, (∀ st ∈ t.fnSteps s r old v env, Harmless st) →
    Follows (t.applyFn old v env) (t.applyFn new v env)

namespace Carries

variable {t : Table} {s : Shape} {r : Region} {Harmless : Step → Prop}

protected theorem refl (e : Expr) : Carries t s r Harmless e e :=
  ⟨fun _ _ => Follows.refl _, fun _ _ _ => Follows.refl _⟩

theorem member {old new : Expr} (n : MemberName) (ty : Ty) (h : Carries t s r Harmless old new) :
    Carries t s r Harmless (.member old n ty) (.member new n ty) := by
  refine ⟨fun env hs => ?_, fun _ _ _ => Follows.of_error _ _⟩
  rw [Table.eval_member, Table.eval_member]
  -- the owner itself is only named in the fault of a null one
  refine (h.eval env hs).bind (fun v _ => ?_)
  cases n <;> cases v <;> first | exact Follows.of_error _ _ | exact Follows.refl _

theorem unary {old new : Expr} (op : UnOp) (ty : Ty) (h : Carries t s r Harmless old new) :
    Carries t s r Harmless (.unary op old ty) (.unary op new ty) := by
  constructor
  · intro env hs
    exact (h.eval env hs).bind (fun _ _ => Follows.refl _)
  · intro v env hs
    cases op with
    | quote => exact h.applyFn v env hs
    | _ => exact Follows.of_error _ _

theorem lambda {old new : Expr} (params : List String) (h : Carries t s r Harmless old new) :
    Carries t s r Harmless (.lambda params old) (.lambda params new) := by
  refine ⟨fun _ _ => Follows.of_error _ _, fun v env hs => ?_⟩
  match params with
  | [] => exact Follows.of_error _ _
  | [name] => exact h.eval _ hs
  | _ :: _ :: _ => exact Follows.of_error _ _

theorem callOn {old new : Expr} {args : List Expr} {f : Expr → Expr} (m : Method) (ty : Ty)
    (h : Carries t s r Harmless old new) (hargs : ∀ a ∈ args, Carries t s r Harmless a (f a)) :
    Carries t s r Harmless (.callOn old m args ty) (.callOn new m (args.map f) ty) := by
  refine ⟨fun env hs => ?_, fun _ _ _ => Follows.of_error _ _⟩
  have hold : ∀ st ∈ t.steps s r old env, Harmless st :=
    fun st hst => hs st (by cases args <;> exact List.mem_append_left _ hst)
  rw [Table.eval_callOn, Table.eval_callOn]
  refine (h.eval env hold).bind (fun v hv => Follows.callText ?_ ?_)
  · cases args with
    | nil => exact fun _ => rfl
    | cons arg rest => exact fun h => nomatch h
  · intro hreads x hx
    cases args with
    | nil => cases hx
    | cons arg rest =>
      cases hx
      refine ⟨_, rfl, (hargs arg (by simp)).eval env (fun st hst => hs st ?_)⟩
      refine List.mem_append_right _ ?_
      show st ∈ ite _ _ _
      rw [hv, if_pos hreads]
      exact hst

theorem binary {old new old' new' : Expr} (op : BinOp) (ty ty' : Ty)
    (hl : Carries t s r.below Harmless old new) (hr : Carries t s r.below Harmless old' new') :
    Carries t s r Harmless (.binary op old old' ty) (.binary op new new' ty') := by
  refine ⟨fun env hs => ?_, fun _ _ _ => Follows.of_error _ _⟩
  obtain ⟨_, hsleft, hsright⟩ := Table.forall_steps_binary hs
  have hleft : Follows (t.eval old env) (t.eval new env) := hl.eval env hsleft
  have hright : Table.settles op (t.eval old env) = false →
      Follows (t.eval old' env) (t.eval new' env) := fun h => hr.eval env (hsright h)
  by_cases hop : op.family = .logical
  · rw [t.eval_logical env hop, t.eval_logical env hop]
    exact hleft.bind (fun v hv => Follows.logic (fun hsettles => hright (hv ▸ hsettles)))
  · rw [t.eval_plain env hop, t.eval_plain env hop]
    refine hleft.bind (fun v hv => ?_)
    exact (hright (Table.settles_plain hop _)).bind (fun _ _ => Follows.refl _)

/-- A choice that stays one. -/
theorem cond {test test' ifTrue ifTrue' ifFalse ifFalse' : Expr} (ty : Ty)
    (hstays : s.yields r test ifTrue ifFalse = false) (ha : Carries t s r Harmless test test')
    (hb : Carries t s r Harmless ifTrue ifTrue') (hc : Carries t s r Harmless ifFalse ifFalse') :
    Carries t s r Harmless (.cond test ifTrue ifFalse ty) (.cond test' ifTrue' ifFalse' ty) := by
  refine ⟨fun env hs => ?_, fun _ _ _ => Follows.of_error _ _⟩
  -- the steps of the branches are those of the one that the value of the test chooses
  rw [Table.steps_cond, if_neg (by simp [hstays]), List.forall_mem_append] at hs
  rw [Table.eval_cond, Table.eval_cond]
  refine (ha.eval env hs.1).bind (fun v hv => ?_)
  rw [hv] at hs
  match v with
  | .bool true => exact hb.eval env hs.2
  | .bool false => exact hc.eval env hs.2
  | .null | .int64 _ | .float64 _ | .string _ | .record _ | .list _ => exact Follows.of_error _ _

theorem call {args : List Expr} {f : Expr → Expr} (m : Method) (ty : Ty)
    (hargs : ∀ a ∈ args, Carries t s r Harmless a (f a)) :
    Carries t s r Harmless (.call m args ty) (.call m (args.map f) ty) := by
  refine ⟨fun env hs => ?_, fun _ _ _ => Follows.of_error _ _⟩
  match args with
  | [] => exact Follows.of_error _ _
  | [seq] =>
    rw [List.map_cons, List.map_nil, Table.eval_call_one, Table.eval_call_one]
    refine Follows.queryAlone (fun hsome => (hargs seq (by simp)).eval env (fun st hst => hs st ?_))
    show st ∈ ite _ _ _
    rw [if_pos hsome]
    exact hst
  | seq :: second :: rest =>
    rw [List.map_cons, List.map_cons, Table.eval_call_two, Table.eval_call_two]
    cases hop : QueryOp.ofName? m.name with
    | none => exact Follows.of_eq (fun _ _ => by simp only [Table.queryWith, hop])
    | some op =>
      have hsteps : t.steps s r (.call m (seq :: second :: rest) ty) env =
          if Table.readsCount op then t.steps s r second env ++ t.steps s r seq env
          else t.steps s r seq env ++
            Table.atEach (fun v => t.fnSteps s r second v env) (t.eval seq env) := by
        show Table.ofQuery m _ _ _ = _
        rw [Table.ofQuery, hop]
      rw [hsteps] at hs
      refine Follows.queryWith hop ?_ ?_ ?_
      · refine (hargs seq (by simp)).eval env (fun st hst => hs st ?_)
        split <;> simp [hst]
      · intro hr
        refine (hargs second (by simp)).eval env (fun st hst => hs st ?_)
        rw [if_pos hr]
        exact List.mem_append_left _ hst
      · intro hr items hitems v hv
        refine (hargs second (by simp)).applyFn v env (fun st hst => hs st ?_)
        rw [if_neg (by simp [hr]), hitems]
        exact List.mem_append_right _ (List.mem_flatMap.mpr ⟨v, hv, hst⟩)

end Carries

end GuardErasure
