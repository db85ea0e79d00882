import GuardErasure.Eval.Operation
import GuardErasure.Query.Operator

namespace GuardErasure

/-!
# Evaluation

Expressions are evaluated against one table of rows:

* `Scope` — the parameters that are bound, innermost first;
* `Table` — a name and the rows that a source of this name stands for;
* `Table.eval` — the value of an expression, or the fault that it comes to;
* `Table.applyFn` — the value of a function of one parameter at an argument.

Operands are evaluated from left to right, and the second operand of a logical operator and the
branches of a choice only when they are needed.
-/

/-- The bindings of parameters; of two bindings of one name the first one counts. -/
structure Scope where
  bindings : List (String × Value) := []

namespace Scope

/-- One more binding, which hides earlier ones of its name. -/
def bind (env : Scope) (name : String) (v : Value) : Scope := ⟨(name, v) :: env.bindings⟩

/-- The value that a name is bound to. -/
def lookup? (env : Scope) (name : String) : Option Value := env.bindings.lookup name

end Scope

/-- A table of rows. -/
structure Table where
  name : String
  rows : List Value

namespace Table

mutual

/-- The value of an expression. -/
def eval (t : Table) : Expr → Scope → Except Fault Value
  | .const v _, _ => .ok v
  | .param name _, env =>
    match env.lookup? name with
    | some v => .ok v
    | none => .error (.unbound name)
  | .member owner name _, env => do Value.readMember owner name (← eval t owner env)
  | .callOn receiver m args _, env => do
    match ← eval t receiver env with
    | .null => .error (.nullReceiver m.name receiver)
    | .string s =>
      match Value.TextMethod.ofName? m.name with
      | some (.map f) => .ok (.string (f s))
      | some (.test p) =>
        match args with
        | [] => .error (.noArgument m.name)
        | arg :: _ => do
          let part ← Value.textArgument m.name (← eval t arg env)
          return .bool (p s part)
      | none => .error (.noMethod m.name .string)
    | v => .error (.noMethod m.name v.kind)
  | .call m args _, env =>
    match args with
    | [] => .error (.noSequence m.name)
    | seq :: rest =>
      match QueryOp.ofName? m.name with
      | none => .error (.noFunction m.name)
      | some .filter =>
        match rest with
        | [] => .error (.noSecond m.name)
        | p :: _ => do
          let items ← Value.elements (← eval t seq env)
          return .list (← Value.keepWhere (fun v => do Value.verdict (← applyFn t p v env)) items)
      | some .map =>
        match rest with
        | [] => .error (.noSecond m.name)
        | f :: _ => do
          let items ← Value.elements (← eval t seq env)
          return .list (← items.mapM fun v => applyFn t f v env)
      | some .take =>
        match rest with
        | [] => .error (.noSecond m.name)
        | n :: _ => do
          let n ← Value.countArgument m.name (← eval t n env)
          return .list ((← Value.elements (← eval t seq env)).take n)
      | some .skip =>
        match rest with
        | [] => .error (.noSecond m.name)
        | n :: _ => do
          let n ← Value.countArgument m.name (← eval t n env)
          return .list ((← Value.elements (← eval t seq env)).drop n)
      | some op => do
        let items ← Value.elements (← eval t seq env)
        let kept ← match rest with
          | [] => .ok items
          | p :: _ => Value.keepWhere (fun v => do Value.verdict (← applyFn t p v env)) items
        Value.summarize op kept
  | .unary op operand ty, env => do Value.applyUnary op ty (← eval t operand env)
  | .binary op left right _, env =>
    if op.family = .logical then do
      let l ← Value.truth (← eval t left env)
      if l = some (Value.decisive op) then return .bool (Value.decisive op)
      else
        let r ← Value.truth (← eval t right env)
        return Value.ofTruth (Value.joinTruth (Value.decisive op) l r)
    else do
      let l ← eval t left env
      let r ← eval t right env
      Value.applyBinary op l r
  | .cond test ifTrue ifFalse _, env => do
    match ← eval t test env with
    | .bool true => eval t ifTrue env
    | .bool false => eval t ifFalse env
    | v => .error (.testNotBool v.kind)
  | .lambda .., _ => .error .bareLambda
  | .root _, _ => .error .bareRoot
  | .source name _, _ => if name = t.name then .ok (.list t.rows) else .error (.unknownSource name)
  | .foreign label _, _ => .error (.foreignTree label)

/-- The value of a function of one parameter, quoted or not, at an argument. -/
def applyFn (t : Table) : Expr → Value → Scope → Except Fault Value
  | .unary .quote operand _, v, env => applyFn t operand v env
  | .lambda [name] body, v, env => eval t body (env.bind name v)
  | e, _, _ => .error (.notALambda e)

end

/-- The elements of an expression that has to be a sequence. -/
def evalList (t : Table) (e : Expr) (env : Scope) : Except Fault (List Value) := do
  Value.elements (← t.eval e env)

/-- The value of an expression without free parameters. -/
def evalClosed (t : Table) (e : Expr) : Except Fault Value := t.eval e {}

end Table

end GuardErasure
