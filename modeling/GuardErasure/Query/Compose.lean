import GuardErasure.Query.Backend
import GuardErasure.Query.Operator
import GuardErasure.Rules.Strategy

namespace GuardErasure

/-!
# Composed queries

A query wraps a backend.  Composing it only builds an expression over a root, which stands for
the data of the backend; when it is run, the root is replaced and the guards are removed, once,
over the whole expression.

* `Query` — a backend and the expression composed so far;
* `Query.extend`, `Query.filter`, `Query.map`, `Query.take`, `Query.skip` — one more step;
* `Query.ready` — the expression that reaches the backend;
* `Query.count`, `Query.any`, `Query.first`, `Query.toList`, … — running it;
* `Query.asBackend` — the query as a backend itself, which can be wrapped again.
-/

/-- A backend, an expression composed over it, and how it is made ready. -/
structure Query where
  backend : Backend
  expr : Expr
  settings : ErasureSettings := {}

namespace Query

/-- The query for all of a backend's data. -/
def ofBackend (backend : Backend) : Query :=
  { backend, expr := .root backend.data.ty.elementOrObject }

/-- The same query, made ready in another way. -/
def withSettings (q : Query) (s : ErasureSettings) : Query := { q with settings := s }

/-- The type of the elements of a query. -/
def elementTy (q : Query) : Ty := q.expr.ty.elementOrObject

/-- The type of the elements of the data that a query is over. -/
def dataTy (q : Query) : Ty := q.expr.rootElements.head?.getD .object

/-- The root that stands for the data. -/
def root (q : Query) : Expr := .root q.dataTy

/-- The query as it is shown in messages. -/
def text (q : Query) : String :=
  "GuardlessQuery \x7b expr: " ++ Text.quoted q.expr.text ++ ", config: " ++ q.settings.text ++
    " \x7d"

/-! ### Composing -/

/-- Check that an expression is over the data of this query, and of no other. -/
def requireRoots (q : Query) (e : Expr) : Except Fault Unit :=
  match e.rootElements.find? (· ≠ q.dataTy) with
  | some other => .error (.foreignRoot other q.dataTy)
  | none => if e.rootElements.isEmpty then .error .noRoot else .ok ()

/-- Go on with a sequence over the data of this query. -/
def extend (q : Query) (e : Expr) : Except Fault Query := do
  if !e.ty.isSeq then .error (.notASequenceTy e.ty)
  else
    q.requireRoots e
    return { q with expr := e }

/-- Check that a composing operator is passed a function of one parameter. -/
def requireLambda (operator : String) (e : Expr) : Except Fault Unit :=
  match e.unquoted with
  | .lambda [_] _ => .ok ()
  | other => .error (.operandNotALambda operator other)

/-- Check that a composing operator is passed a count. -/
def requireCount (operator : String) (n : Int64) : Except Fault Unit :=
  if 0 ≤ n.toInt then .ok () else .error (.operandNegative operator n)

/-- Keep the elements that a predicate accepts. -/
def filter (q : Query) (predicate : Expr) : Except Fault Query := do
  requireLambda "filter" predicate
  q.extend (q.expr.filtered predicate)

/-- Replace every element by its image. -/
def map (q : Query) (projection : Expr) (element : Ty) : Except Fault Query := do
  requireLambda "map" projection
  q.extend (q.expr.mapped projection element)

/-- Keep the first `n` elements. -/
def take (q : Query) (n : Int64) : Except Fault Query := do
  requireCount "take" n
  q.extend (q.expr.taken n)

/-- Leave out the first `n` elements. -/
def skip (q : Query) (n : Int64) : Except Fault Query := do
  requireCount "skip" n
  q.extend (q.expr.skipped n)

/-! ### Running -/

/-- Put the backend's data in the place of the root and remove the guards. -/
def ready (q : Query) (e : Expr) : Run Expr := do
  let r ← (Strategy.preparing q.backend.data q.settings).run e
  Run.tell (.prepared q.backend.name r.applied r.expr)
  if q.settings.keepTrace then Run.tell (.account r.text)
  return r.expr

/-- The value of a scalar expression, made ready first. -/
def value (q : Query) (e : Expr) : Run Value := do q.backend.value (← q.ready e)

/-- The rows of a sequence expression, made ready first. -/
def rows (q : Query) (e : Expr) : Run Batches := do q.backend.rows (← q.ready e)

/-- The value of a scalar expression over the data of this query. -/
def scalar (q : Query) (e : Expr) : Run Value := do
  Run.ofExcept (q.requireRoots e)
  q.value e

/-- The number of elements. -/
def count (q : Query) : Run Int64 := do
  let v ← q.value q.expr.counted
  match v.toInt64? with
  | some n => return n
  | none => Run.fail (.resultMismatch "count" v.kind)

/-- Is there an element? -/
def any (q : Query) : Run Bool := do
  let v ← q.value q.expr.nonempty
  match v.toBool? with
  | some b => return b
  | none => Run.fail (.resultMismatch "any" v.kind)

/-- The first element. -/
def first (q : Query) : Run Value := q.value q.expr.firstOf

/-- The elements in batches. -/
def batches (q : Query) : Run Batches := q.rows q.expr

/-- The elements one by one. -/
def items (q : Query) (c : Combinators) : Run (Delivery Value) := do return (← q.batches).items c

/-- All elements. -/
def toList (q : Query) (c : Combinators) : Run (List Value) := do
  Run.ofExcept ((← q.batches).gather c)

/-- The name of a query as a backend. -/
def backendName : String := "GuardlessQuery"

/-- The query as a backend: it passes expressions on to its own backend, made ready.  What was
    composed over it so far plays no part. -/
def asBackend (q : Query) : Backend where
  name := backendName
  data := q.backend.data
  value := q.value
  rows := q.rows

end Query

end GuardErasure
