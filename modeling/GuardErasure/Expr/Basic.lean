import GuardErasure.Operator
import GuardErasure.Value

namespace GuardErasure

/-!
# Query expressions

* `Expr` — the trees that queries, predicates and projections are written in.  Every node
  stores its static type, right or wrong, except where the type follows from the node's
  parts;
* `Expr.ty` — the static type of a node;
* builders such as `Expr.combine` and `Expr.choose`, which compute the stored type;
* `Expr.isNullLiteral`, `Expr.nullChecked?` — the two patterns that guards are made of.
-/

/-- What a member access reads. -/
inductive MemberName where
  /-- A field or property. -/
  | named (name : String)
  /-- The value inside a nullable wrapper. -/
  | wrappedValue
  /-- Whether a nullable wrapper holds a value. -/
  | hasValue
deriving DecidableEq

/-- The name of a member as it is written after the point. -/
def MemberName.text : MemberName → String
  | named name => name
  | wrappedValue => "Value"
  | hasValue => "HasValue"

/-- What a call invokes. -/
structure Method where
  name : String
  /-- A static method has no receiver; its first argument stands in for one. -/
  isStatic : Bool
deriving DecidableEq

namespace Method

/-- A method that is called on a receiver. -/
def onReceiver (name : String) : Method := ⟨name, false⟩

/-- A method without a receiver. -/
def free (name : String) : Method := ⟨name, true⟩

end Method

/-- A query expression. -/
inductive Expr where
  /-- A literal, null included. -/
  | const (value : Value) (ty : Ty)
  /-- A reference to a lambda parameter. -/
  | param (name : String) (ty : Ty)
  /-- A read of a member off its owner. -/
  | member (owner : Expr) (name : MemberName) (ty : Ty)
  /-- A call on a receiver. -/
  | callOn (receiver : Expr) (method : Method) (args : List Expr) (ty : Ty)
  /-- A call without a receiver. -/
  | call (method : Method) (args : List Expr) (ty : Ty)
  | unary (op : UnOp) (operand : Expr) (ty : Ty)
  | binary (op : BinOp) (left right : Expr) (ty : Ty)
  /-- A choice between two expressions. -/
  | cond (test ifTrue ifFalse : Expr) (ty : Ty)
  /-- A function literal, passed to query operators. -/
  | lambda (params : List String) (body : Expr)
  /-- Stands for the query composed so far. -/
  | root (element : Ty)
  /-- A named collection of rows. -/
  | source (name : String) (element : Ty)
  /-- A tree of some other language, known by its label only. -/
  | foreign (label : String) (ty : Ty)

/-- The kinds of nodes. -/
inductive NodeKind where
  | const | param | member | call | unary | binary | cond | lambda | root | source | foreign
deriving DecidableEq

/-- The name of a kind of nodes. -/
def NodeKind.name : NodeKind → String
  | const => "Constant"
  | param => "Parameter"
  | member => "Member"
  | call => "Call"
  | unary => "Unary"
  | binary => "Binary"
  | cond => "Conditional"
  | lambda => "Lambda"
  | root => "QueryRoot"
  | source => "Source"
  | foreign => "Opaque"

namespace Expr

/-- The kind of a node; calls with and without a receiver are of one kind. -/
def kind : Expr → NodeKind
  | const .. => .const
  | param .. => .param
  | member .. => .member
  | callOn .. | call .. => .call
  | unary .. => .unary
  | binary .. => .binary
  | cond .. => .cond
  | lambda .. => .lambda
  | root .. => .root
  | source .. => .source
  | foreign .. => .foreign

/-- The static type of an expression.  That of a lambda is the type of its body; a root
    and a source are sequences of their elements. -/
def ty : Expr → Ty
  | const _ t | param _ t | member _ _ t | callOn _ _ _ t | call _ _ t | unary _ _ t
  | binary _ _ _ t | cond _ _ _ t | foreign _ t => t
  | lambda _ body => body.ty
  | root element | source _ element => .seq element

/-! ### Patterns -/

/-- Is this the null literal, of whatever type? -/
def isNullLiteral : Expr → Bool
  | const .null _ => true
  | _ => false

/-- Is this the truth value `b`, of type `bool`? -/
def isBoolLiteral (b : Bool) : Expr → Bool
  | const (.bool c) .bool => c == b
  | _ => false

/-- The operand of a test `operand == null`. -/
def nullChecked? : Expr → Option Expr
  | binary .equal left right _ => if right.isNullLiteral then some left else none
  | _ => none

/-- Is this a test `_ == null`? -/
def isNullCheck (e : Expr) : Bool := e.nullChecked?.isSome

/-- The value of a literal. -/
def literal? : Expr → Option Value
  | const v _ => some v
  | _ => none

/-- The expression inside any number of quotations. -/
def unquoted : Expr → Expr
  | unary .quote operand _ => operand.unquoted
  | e => e

/-! ### Builders -/

/-- A literal of the type that its value suggests; null, records and lists suggest none. -/
def ofValue (v : Value) : Expr :=
  const v <| match v with
    | .bool _ => .bool
    | .int64 _ => .int64
    | .float64 _ => .float64
    | .string _ => .string
    | .null | .record _ | .list _ => .object

/-- The literal `true`. -/
def trueLiteral : Expr := const (.bool true) .bool

/-- The null literal of a type. -/
def null (t : Ty) : Expr := const .null t

/-- A binary operation, of the type that its operands give it. -/
def combine (left : Expr) (op : BinOp) (right : Expr) : Expr :=
  binary op left right (op.resultTy left.ty right.ty)

/-- A choice, of the type of its second branch. -/
def choose (test ifTrue ifFalse : Expr) : Expr := cond test ifTrue ifFalse ifFalse.ty

/-- Read a named member. -/
def read (e : Expr) (name : String) (t : Ty) : Expr := member e (.named name) t

/-- Read the value inside a nullable wrapper. -/
def readValue (e : Expr) : Expr := member e .wrappedValue e.ty.stripped

/-- Ask whether a nullable wrapper holds a value. -/
def isPresent (e : Expr) : Expr := member e .hasValue .bool

/-- Call a method on a receiver. -/
def invoke (e : Expr) (name : String) (args : List Expr) (t : Ty) : Expr :=
  callOn e (.onReceiver name) args t

/-- Call a function. -/
def callNamed (name : String) (args : List Expr) (t : Ty) : Expr := call (.free name) args t

/-- Convert to another type. -/
def convertTo (e : Expr) (t : Ty) : Expr := unary .convert e t

/-- A unary operation that keeps the type of its operand. -/
def unarySame (op : UnOp) (e : Expr) : Expr := unary op e e.ty

/-- The test `e == null`. -/
def eqNull (e : Expr) : Expr := e.combine .equal (null e.ty)

/-- The test `e != null`. -/
def neNull (e : Expr) : Expr := e.combine .notEqual (null e.ty)

/-- The lowered form of a guarded access: `path == null ? false : path.Value`. -/
def guarded (path : Expr) : Expr :=
  choose path.eqNull (ofValue (.bool false)) path.readValue

/-! ### Small facts -/

@[simp] theorem ty_combine (l r : Expr) (op : BinOp) :
    (l.combine op r).ty = op.resultTy l.ty r.ty := rfl

@[simp] theorem nullChecked?_eqNull (e : Expr) : e.eqNull.nullChecked? = some e := rfl

/-- A test for null is an equality with a null literal on the right. -/
theorem nullChecked?_eq_some {e path : Expr} :
    e.nullChecked? = some path ↔ ∃ nt t, e = binary .equal path (const .null nt) t := by
  constructor
  · intro h
    unfold nullChecked? at h
    split at h
    · split at h
      · rename_i left right t hnull
        unfold isNullLiteral at hnull
        split at hnull <;> simp_all
      · cases h
    · cases h
  · rintro ⟨nt, t, rfl⟩
    rfl

end Expr

end GuardErasure
