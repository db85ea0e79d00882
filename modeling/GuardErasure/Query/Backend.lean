import GuardErasure.Eval.Table
import GuardErasure.Expr.Nodes
import GuardErasure.Query.Batch
import GuardErasure.Run
import GuardErasure.Settings

namespace GuardErasure

/-!
# Backends

* `Backend` — whatever runs queries: it has a source of its own, gives the value of a scalar
  query, and delivers the rows of a sequence query;
* `Memory` — rows in memory, with the queries that were received;
* `Memory.backend` — the backend that evaluates queries over such rows.  When it is strict it
  refuses every query with a choice in it, as a remote database would.
-/

/-- A backend that runs queries. -/
structure Backend where
  name : String
  /-- The data of the backend, as an expression. -/
  data : Expr
  /-- The value of a scalar query. -/
  value : Expr → Run Value
  /-- The rows of a sequence query. -/
  rows : Expr → Run Batches

/-- Rows in memory. -/
structure Memory where
  table : Table
  element : Ty
  settings : MemorySettings := {}
  /-- Are received queries recorded? -/
  records : Bool := false
  /-- The recorded queries, oldest first. -/
  received : List Expr := []

namespace Memory

/-- The name of the backend in messages. -/
def backendName : String := "MemoryEngine"

/-- The data, as an expression. -/
def data (m : Memory) : Expr := .source m.table.name m.element

/-- Check that a query can be run at all. -/
def screen (m : Memory) (e : Expr) : Except Fault Unit :=
  if m.settings.strict then
    match e.nodes.find? Expr.isCond with
    | some node => .error (.refused backendName node)
    | none => .ok ()
  else .ok ()

/-- The value of a query of any sort. -/
def value (m : Memory) (e : Expr) : Run Value := do
  Run.tell (.received e)
  Run.ofExcept (m.screen e)
  Run.tell (.running backendName e)
  Run.ofExcept (m.table.evalClosed e)

/-- The rows of a sequence query, in batches. -/
def rows (m : Memory) (e : Expr) : Run Batches := do
  match ← m.value e with
  | .list rows => return (Cursor.ofRows rows m.settings.batchSize.toNat).batches
  | v => Run.fail (.resultNotASequence v.kind)

/-- The rows as a backend. -/
def backend (m : Memory) : Backend where
  name := backendName
  data := m.data
  value := m.value
  rows := m.rows

/-! ### The record of received queries -/

/-- The rows after a run in which these notes were taken. -/
def after (m : Memory) (notes : List Note) : Memory :=
  if m.records then { m with received := m.received ++ notes.filterMap Note.received? } else m

/-- The recorded queries, and the rows with an empty record. -/
def drainReceived (m : Memory) : List Expr × Memory := (m.received, { m with received := [] })

end Memory

end GuardErasure
