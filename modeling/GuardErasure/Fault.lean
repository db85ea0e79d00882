import GuardErasure.Expr.Text

namespace GuardErasure

/-!
# Faults

Everything that can go wrong with an expression, as a cause and what is needed to tell
about it:

* `FaultKind` — the classes of faults;
* `Fault` — the causes;
* `Fault.kind`, `Fault.detail`, `Fault.message` — the class and the wording of each.
-/

/-- The classes of faults. -/
inductive FaultKind where
  /-- An operation does not fit the types it is used at. -/
  | type
  /-- A value is out of reach: too large, missing, or divided by zero. -/
  | value
  /-- An argument does not fit the operator it is handed to. -/
  | parameter
  /-- A backend cannot run part of an expression. -/
  | unsupported
  /-- Evaluation came to a point where there is no result. -/
  | execution
  /-- A feature that does not exist. -/
  | notImplemented
  /-- A rule or backend broke its contract. -/
  | internal
deriving DecidableEq

/-- The name of a class of faults, as messages give it. -/
def FaultKind.name : FaultKind → String
  | type => "TypeError"
  | value => "ValueError"
  | parameter => "InvalidParameter"
  | unsupported => "UnsupportedExpression"
  | execution => "ExecutionError"
  | notImplemented => "NotImplemented"
  | internal => "InternalError"

/-- The causes of faults. -/
inductive Fault where
  /-- A parameter that no lambda around it binds. -/
  | unbound (name : String)
  /-- A member of null is read. -/
  | nullOwner (member : MemberName) (owner : Expr)
  /-- A method of null is called. -/
  | nullReceiver (method : String) (receiver : Expr)
  /-- Null is passed where text is needed. -/
  | nullArgument (method : String)
  /-- A record lacks the member. -/
  | noField (name : String)
  /-- Values of this sort have no such member. -/
  | unreadable (name : String) (found : ValueKind)
  /-- Values of this sort have no such method. -/
  | noMethod (method : String) (found : ValueKind)
  /-- There is no such function. -/
  | noFunction (name : String)
  /-- A method lacks its argument. -/
  | noArgument (method : String)
  /-- A method's argument is not text. -/
  | argumentNotText (method : String) (found : ValueKind)
  /-- A query operator lacks its sequence. -/
  | noSequence (operator : String)
  /-- A query operator lacks its second argument. -/
  | noSecond (operator : String)
  /-- The count of a query operator is no integer. -/
  | countNotInteger (operator : String)
  /-- The count of a query operator is negative. -/
  | negativeCount (operator : String) (n : Int64)
  /-- There is no first element. -/
  | noMatch
  /-- A query operator needs a function of one parameter. -/
  | notALambda (found : Expr)
  /-- A predicate gave neither a truth value nor null. -/
  | predicateNotBool (found : ValueKind)
  /-- A query operator is applied to something other than a list. -/
  | notASequence (found : ValueKind)
  /-- The test of a choice gave no truth value. -/
  | testNotBool (found : ValueKind)
  /-- A lambda stands where a value is needed. -/
  | bareLambda
  /-- The root of a query was not replaced. -/
  | bareRoot
  /-- There is no source of this name. -/
  | unknownSource (name : String)
  /-- A tree of another language. -/
  | foreignTree (label : String)
  /-- A length beyond the integers. -/
  | lengthTooLarge (n : Nat)
  /-- The negation of the least integer. -/
  | negationOverflow
  /-- A unary operator does not apply to this sort of value. -/
  | unaryMismatch (op : UnOp) (found : ValueKind)
  /-- A logical operator does not apply to this sort of value. -/
  | logicalMismatch (found : ValueKind)
  /-- Two values have no order. -/
  | incomparable (left right : ValueKind)
  /-- An integer is divided by zero. -/
  | divisionByZero
  /-- The result of integer arithmetic does not fit. -/
  | overflow (left : Int64) (op : BinOp) (right : Int64)
  /-- An arithmetic operator does not apply to these sorts of values. -/
  | binaryMismatch (op : BinOp) (left right : ValueKind)
  /-- A root cannot stand for this source. -/
  | rootMismatch (element sourceTy : Ty)
  /-- A composed expression is no sequence. -/
  | notASequenceTy (found : Ty)
  /-- A composed expression belongs to another query. -/
  | foreignRoot (found expected : Ty)
  /-- A composed expression belongs to no query. -/
  | noRoot
  /-- A composing operator needs a function of one parameter. -/
  | operandNotALambda (operator : String) (found : Expr)
  /-- A composing operator needs a count. -/
  | operandNegative (operator : String) (n : Int64)
  /-- A backend has no way to run a choice. -/
  | refused (backend : String) (node : Expr)
  /-- The result of a sequence query is no list. -/
  | resultNotASequence (found : ValueKind)
  /-- The result of a scalar query is of the wrong sort. -/
  | resultMismatch (operator : String) (found : ValueKind)
  /-- A fault that somebody else reports, in their own words. -/
  | reported (kind : FaultKind) (detail : String)

namespace Fault

/-- The class of a fault. -/
def kind : Fault → FaultKind
  | unreadable .. | argumentNotText .. | countNotInteger .. | notALambda .. | predicateNotBool ..
  | notASequence .. | testNotBool .. | unaryMismatch .. | logicalMismatch .. | incomparable ..
  | binaryMismatch .. | rootMismatch .. | resultNotASequence .. | resultMismatch .. => .type
  | noField .. | unknownSource .. | lengthTooLarge .. | negationOverflow | divisionByZero
  | overflow .. => .value
  | noArgument .. | noSequence .. | noSecond .. | negativeCount .. | notASequenceTy ..
  | foreignRoot .. | noRoot | operandNotALambda .. | operandNegative .. => .parameter
  | noMethod .. | noFunction .. | refused .. => .unsupported
  | unbound .. | nullOwner .. | nullReceiver .. | nullArgument .. | noMatch | bareLambda
  | bareRoot => .execution
  | foreignTree .. => .notImplemented
  | reported k _ => k

/-- The wording of a read or call on null. -/
def onNull (what : String) : String := "NullReference: " ++ what

/-- The wording of a fault, its class aside. -/
def detail : Fault → String
  | unbound name => s!"Unbound parameter '{name}'"
  | nullOwner m owner => onNull s!"reading {m.text} of {owner.text}"
  | nullReceiver m receiver => onNull s!"calling {m} on {receiver.text}"
  | nullArgument m => onNull s!"argument of {m}"
  | noField name => s!"Record has no member '{name}'"
  | unreadable name found => s!"Cannot read member '{name}' of {found.name}"
  | noMethod m found => s!"Method '{m}' on {found.name}"
  | noFunction name => s!"Function '{name}'"
  | noArgument m => s!"'{m}' expects one argument"
  | argumentNotText m found => s!"'{m}' expects a String argument, got {found.name}"
  | noSequence f => s!"'{f}' expects a sequence argument"
  | noSecond f => s!"'{f}' expects two arguments"
  | countNotInteger f => s!"'{f}' expects an Int64 count"
  | negativeCount f n => s!"'{f}' expects a non-negative count, got {n.toInt}"
  | noMatch => "Sequence contains no matching element"
  | notALambda found => s!"Expected a one-parameter lambda, got {found.text}"
  | predicateNotBool found => s!"Predicate must evaluate to Bool, got {found.name}"
  | notASequence found => s!"Expected a sequence, got {found.name}"
  | testNotBool found => s!"Conditional test must be Bool, got {found.name}"
  | bareLambda => "Lambda cannot be evaluated directly"
  | bareRoot => "Query root placeholder was not replaced by a source"
  | unknownSource name => s!"Unknown source '{name}'"
  | foreignTree label => s!"Evaluation of opaque expression <{label}>"
  | lengthTooLarge n => s!"Length {n} does not fit in Int64"
  | negationOverflow => "Integer overflow in negation"
  | unaryMismatch op found => s!"Cannot apply {op.name} to {found.name}"
  | logicalMismatch found => s!"Logical operand must be Bool, got {found.name}"
  | incomparable l r => s!"Cannot compare {l.name} with {r.name}"
  | divisionByZero => "Division by zero"
  | overflow l op r => s!"Integer overflow in {l.toInt} {op.symbol} {r.toInt}"
  | binaryMismatch op l r => s!"Cannot apply {op.symbol} to {l.name} and {r.name}"
  | rootMismatch element sourceTy =>
    s!"query root over {element.text} cannot be replaced by a source of type {sourceTy.text}"
  | notASequenceTy found => s!"Expected a sequence query, got {found.text}"
  | foreignRoot found expected =>
    s!"Expression is rooted at a query over {found.text}, not {expected.text}"
  | noRoot => "Expression is not rooted at this query"
  | operandNotALambda f found => s!"{f} expects a one-parameter lambda, got {found.text}"
  | operandNegative f n => s!"{f} expects a non-negative count, got {n.toInt}"
  | refused backend node => s!"{backend} cannot translate conditional {node.text}"
  | resultNotASequence found => s!"Expected a sequence query, got {found.name}"
  | resultMismatch f found => s!"{f} returned {found.name}"
  | reported _ text => text

/-- The full message of a fault. -/
def message (f : Fault) : String := f.kind.name ++ ": " ++ f.detail

end Fault

end GuardErasure
