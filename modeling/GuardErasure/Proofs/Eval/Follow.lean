import GuardErasure.Eval.Table

namespace GuardErasure

/-!
# Following a computation

A computation that may fail is followed by another one that gives its result whenever it has
one; what the other one does when it fails is left open.

* `Follows` — the relation, which goes through binds, `mapM` and `Value.keepWhere`;
* `Table.eval_member`, `Table.eval_unary`, … — the evaluator as a composition of computations,
  one equation for each kind of node.
-/

/-- A bind has a result exactly if both of its parts have. -/
theorem bind_eq_ok {α β : Type} {x : Except Fault α} {f : α → Except Fault β} {b : β} :
    x >>= f = .ok b ↔ ∃ a, x = .ok a ∧ f a = .ok b := by
  cases x with
  | error e => exact ⟨fun h => (nomatch h), fun ⟨_, h, _⟩ => (nomatch h)⟩
  | ok a =>
    refine ⟨fun h => ⟨a, rfl, h⟩, ?_⟩
    rintro ⟨_, ⟨⟩, hf⟩
    exact hf

/-- A bind fails exactly if its first part does, or its second part on the result of the first. -/
theorem bind_eq_error {α β : Type} {x : Except Fault α} {f : α → Except Fault β} {e : Fault} :
    x >>= f = .error e ↔ x = .error e ∨ ∃ a, x = .ok a ∧ f a = .error e := by
  cases x with
  | error e' =>
    constructor
    · rintro ⟨⟩
      exact .inl rfl
    · rintro (⟨⟨⟩⟩ | ⟨_, ⟨⟩, _⟩)
      rfl
  | ok a =>
    refine ⟨fun h => .inr ⟨a, rfl, h⟩, ?_⟩
    rintro (⟨⟨⟩⟩ | ⟨_, ⟨⟩, hf⟩)
    exact hf

/-- `y` gives the result of `x` whenever `x` has one. -/
def Follows {α : Type} (x y : Except Fault α) : Prop := ∀ v, x = .ok v → y = .ok v

namespace Follows

variable {α β : Type}

protected theorem refl (x : Except Fault α) : Follows x x := fun _ h => h

/-- Everything follows a failure. -/
theorem of_error (f : Fault) (y : Except Fault α) : Follows (.error f) y :=
  fun _ h => nomatch h

theorem of_eq {x y : Except Fault α} (h : ∀ v, x = .ok v → y = x) : Follows x y :=
  fun v hv => (h v hv).trans hv

/-- A bind follows a bind if its first part does and, for the result of that, its second. -/
theorem bind {x y : Except Fault α} {f g : α → Except Fault β} (hxy : Follows x y)
    (hfg : ∀ a, x = .ok a → Follows (f a) (g a)) : Follows (x >>= f) (y >>= g) := by
  cases x with
  | error e => exact of_error e _
  | ok a =>
    rw [hxy a rfl]
    exact hfg a rfl

theorem mapM {f g : α → Except Fault β} {items : List α}
    (h : ∀ a ∈ items, Follows (f a) (g a)) : Follows (items.mapM f) (items.mapM g) := by
  induction items with
  | nil => exact Follows.refl _
  | cons a as ih =>
    rw [List.mapM_cons, List.mapM_cons]
    refine bind (h a (by simp)) (fun b _ => ?_)
    exact bind (ih (fun c hc => h c (by simp [hc]))) (fun _ _ => Follows.refl _)

theorem keepWhere {p q : Value → Except Fault Bool} {items : List Value}
    (h : ∀ v ∈ items, Follows (p v) (q v)) :
    Follows (Value.keepWhere p items) (Value.keepWhere q items) := by
  induction items with
  | nil => exact Follows.refl _
  | cons v vs ih =>
    have hrest := ih (fun w hw => h w (by simp [hw]))
    refine bind (h v (by simp)) (fun b _ => ?_)
    cases b with
    | true => exact bind hrest (fun _ _ => Follows.refl _)
    | false => exact hrest

end Follows

/-- A value that has a truth is the value of that truth. -/
theorem Value.eq_ofTruth {v : Value} {l : Option Bool} (h : v.truth = .ok l) :
    v = Value.ofTruth l := by
  cases v with
  | null | bool => cases h; rfl
  | _ => cases h

/-! ### Evaluation as a composition of computations -/

namespace Table

variable (t : Table) (env : Scope)

theorem eval_member (owner : Expr) (n : MemberName) (ty : Ty) :
    t.eval (.member owner n ty) env = t.eval owner env >>= Value.readMember owner n := rfl

theorem eval_unary (op : UnOp) (operand : Expr) (ty : Ty) :
    t.eval (.unary op operand ty) env = t.eval operand env >>= Value.applyUnary op ty := rfl

/-- What a logical operator makes of its left operand and, if that does not decide, of its
    right one. -/
def logic (op : BinOp) (right : Except Fault Value) (left : Value) : Except Fault Value := do
  let l ← Value.truth left
  if l = some (Value.decisive op) then return .bool (Value.decisive op)
  else
    let r ← Value.truth (← right)
    return Value.ofTruth (Value.joinTruth (Value.decisive op) l r)

theorem eval_logical {op : BinOp} (hop : op.family = .logical) (left right : Expr) (ty : Ty) :
    t.eval (.binary op left right ty) env
      = t.eval left env >>= logic op (t.eval right env) := by
  cases op <;> first | rfl | cases hop

theorem eval_plain {op : BinOp} (hop : op.family ≠ .logical) (left right : Expr) (ty : Ty) :
    t.eval (.binary op left right ty) env
      = t.eval left env >>= fun l => t.eval right env >>= Value.applyBinary op l := by
  cases op <;> first | rfl | exact absurd rfl hop

/-- What a choice makes of the value of its test. -/
def choice (ifTrue ifFalse : Except Fault Value) : Value → Except Fault Value
  | .bool true => ifTrue
  | .bool false => ifFalse
  | v => .error (.testNotBool v.kind)

theorem eval_cond (test ifTrue ifFalse : Expr) (ty : Ty) :
    t.eval (.cond test ifTrue ifFalse ty) env
      = t.eval test env >>= choice (t.eval ifTrue env) (t.eval ifFalse env) := rfl

/-- What a method makes of its receiver, and of its first argument if it reads one. -/
def callText (m : Method) (receiver : Expr) (arg : Option (Except Fault Value)) :
    Value → Except Fault Value
  | .null => .error (.nullReceiver m.name receiver)
  | .string s =>
    match Value.TextMethod.ofName? m.name with
    | some (.map f) => .ok (.string (f s))
    | some (.test p) =>
      match arg with
      | none => .error (.noArgument m.name)
      | some arg => do
        let part ← Value.textArgument m.name (← arg)
        return .bool (p s part)
    | none => .error (.noMethod m.name .string)
  | v => .error (.noMethod m.name v.kind)

theorem eval_callOn (receiver : Expr) (m : Method) (args : List Expr) (ty : Ty) :
    t.eval (.callOn receiver m args ty) env
      = t.eval receiver env >>=
        callText m receiver (args.head?.map fun arg => t.eval arg env) := by
  simp only [eval]
  refine congrArg (t.eval receiver env >>= ·) (funext fun v => ?_)
  cases v with
  | string s =>
    simp only [callText]
    cases Value.TextMethod.ofName? m.name with
    | none => rfl
    | some method => cases method <;> cases args <;> rfl
  | _ => rfl

/-- What a function makes of a sequence alone. -/
def queryAlone (m : Method) (seq : Except Fault Value) : Except Fault Value :=
  match QueryOp.ofName? m.name with
  | none => .error (.noFunction m.name)
  | some .filter | some .map | some .take | some .skip => .error (.noSecond m.name)
  | some op => do Value.summarize op (← Value.elements (← seq))

/-- What a function makes of a sequence and a second argument, a count or a function. -/
def queryWith (m : Method) (seq count : Except Fault Value) (fn : Value → Except Fault Value) :
    Except Fault Value :=
  match QueryOp.ofName? m.name with
  | none => .error (.noFunction m.name)
  | some .filter => do
    let items ← Value.elements (← seq)
    return .list (← Value.keepWhere (fun v => do Value.verdict (← fn v)) items)
  | some .map => do
    let items ← Value.elements (← seq)
    return .list (← items.mapM fn)
  | some .take => do
    let n ← Value.countArgument m.name (← count)
    return .list ((← Value.elements (← seq)).take n)
  | some .skip => do
    let n ← Value.countArgument m.name (← count)
    return .list ((← Value.elements (← seq)).drop n)
  | some op => do
    let items ← Value.elements (← seq)
    Value.summarize op (← Value.keepWhere (fun v => do Value.verdict (← fn v)) items)

theorem eval_call_one (m : Method) (seq : Expr) (ty : Ty) :
    t.eval (.call m [seq] ty) env = queryAlone m (t.eval seq env) := by
  cases hop : QueryOp.ofName? m.name with
  | none => simp only [eval, queryAlone, hop]
  | some op => cases op <;> simp only [eval, queryAlone, hop] <;> rfl

theorem eval_call_two (m : Method) (seq second : Expr) (rest : List Expr) (ty : Ty) :
    t.eval (.call m (seq :: second :: rest) ty) env
      = queryWith m (t.eval seq env) (t.eval second env) fun v => t.applyFn second v env := by
  cases hop : QueryOp.ofName? m.name with
  | none => simp only [eval, queryWith, hop]
  | some op => cases op <;> simp only [eval, queryWith, hop]

end Table

end GuardErasure
