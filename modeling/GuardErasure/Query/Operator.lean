import GuardErasure.Expr.Basic

namespace GuardErasure

/-!
# Query operators

A query operator is a function whose first argument is a sequence, so that a composed query is
a chain of calls that starts at a root or at a source:

* `QueryOp` — the operators and their names;
* `Expr.filtered`, `Expr.mapped`, … — calls of them;
* `Expr.queryOp?` — the operator that an expression calls.
-/

/-- A query operator. -/
inductive QueryOp where
  /-- Keep the elements that a predicate accepts. -/
  | filter
  /-- Replace every element by its image. -/
  | map
  /-- Keep the first elements. -/
  | take
  /-- Leave out the first elements. -/
  | skip
  /-- The number of elements, all or those that a predicate accepts. -/
  | count
  /-- Whether there is an element, any or one that a predicate accepts. -/
  | any
  /-- The first element, of all or of those that a predicate accepts. -/
  | first
deriving DecidableEq

namespace QueryOp

/-- The name of the function that an operator is. -/
def name : QueryOp → String
  | filter => "where"
  | map => "select"
  | take => "take"
  | skip => "skip"
  | count => "count"
  | any => "any"
  | first => "first"

/-- The operator of a name. -/
def ofName? : String → Option QueryOp
  | "where" => some filter
  | "select" => some map
  | "take" => some take
  | "skip" => some skip
  | "count" => some count
  | "any" => some any
  | "first" => some first
  | _ => none

/-- Every operator is found by its name. -/
@[simp] theorem ofName?_name (op : QueryOp) : ofName? op.name = some op := by
  cases op <;> rfl

end QueryOp

namespace Expr

/-- The elements that a predicate accepts. -/
def filtered (seq predicate : Expr) : Expr :=
  callNamed QueryOp.filter.name [seq, predicate] seq.ty

/-- The images of all elements, which are of type `element`. -/
def mapped (seq projection : Expr) (element : Ty) : Expr :=
  callNamed QueryOp.map.name [seq, projection] (.seq element)

/-- The first `n` elements. -/
def taken (seq : Expr) (n : Int64) : Expr :=
  callNamed QueryOp.take.name [seq, .ofValue (.int64 n)] seq.ty

/-- All but the first `n` elements. -/
def skipped (seq : Expr) (n : Int64) : Expr :=
  callNamed QueryOp.skip.name [seq, .ofValue (.int64 n)] seq.ty

/-- The number of elements. -/
def counted (seq : Expr) : Expr := callNamed QueryOp.count.name [seq] .int64

/-- Whether there is an element. -/
def nonempty (seq : Expr) : Expr := callNamed QueryOp.any.name [seq] .bool

/-- The first element. -/
def firstOf (seq : Expr) : Expr := callNamed QueryOp.first.name [seq] seq.ty.elementOrObject

/-- The query operator that an expression calls, and its arguments. -/
def queryOp? : Expr → Option (QueryOp × List Expr)
  | call m args _ => if m.isStatic then (QueryOp.ofName? m.name).map (·, args) else none
  | _ => none

end Expr

end GuardErasure
