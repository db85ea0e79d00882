import GuardErasure.Proofs.Query.Delivery
import GuardErasure.Proofs.Query.Rooted
import GuardErasure.Proofs.Rules.Around

namespace GuardErasure

/-!
# Ways to run a query

A query can be run for its rows, as a list, in batches or one by one, and for their number,
whether there is one, and the first one.  Over rows in memory all of these come to the same:

* `Query.result_ready_call` — a call around a tree is still around it when the tree is ready;
* `Memory.result_value_summary` — the value of a summary is a summary of the value of the sequence;
* `Query.Delivers`, `Query.FailsAs`, `Query.Agrees` — what each way to run a query comes to, if its
  rows are these, if it fails, and if it is as good as another query;
* `Query.terminals_agree` — the rows as a list decide about everything else, and the size of the
  batches about nothing.
-/

/-- The run fails, with a fault of this class. -/
def Run.FailsAs {α : Type} (x : Run α) (k : FaultKind) : Prop :=
  ∃ f, x.result = .error f ∧ f.kind = k

/-! ### Summaries of a sequence -/

/-- Does the operator make a single value of a sequence? -/
def QueryOp.isSummary : QueryOp → Bool
  | count | any | first => true
  | filter | map | take | skip => false

theorem Table.queryAlone_summary {op : QueryOp} (h : op.isSummary = true)
    (seq : Except Fault Value) :
    Table.queryAlone (.free op.name) seq
      = seq >>= fun v => v.elements >>= Value.summarize op := by
  cases op <;> first | rfl | cases h

/-- The number of elements, as long as there are no more of them than integers. -/
theorem Value.ofLength_eq_ok {n : Nat} (h : (n : Int) ≤ Int64.maxValue.toInt) :
    ∃ i : Int64, ofLength n = .ok (.int64 i) ∧ i.toInt = n := by
  have hmin : Int64.minValue.toInt ≤ (n : Int) := Int.le_trans (by decide) (Int.natCast_nonneg n)
  refine ⟨Int64.ofInt n, ?_, Int64.toInt_ofInt_of_le hmin (Int.lt_of_le_of_lt h (by decide))⟩
  rw [ofLength, ofInt?, if_pos ⟨hmin, h⟩]

namespace Memory

variable (m : Memory) {c : Combinators} (hc : c.Lawful)

/-- The same rows, delivered in batches of another size. -/
def inBatchesOf (size : UInt64) : Memory :=
  { m with settings := { m.settings with batchSize := size } }

/-- What is refused does not depend on a call around it. -/
theorem screen_call (method : Method) (e : Expr) (t : Ty) :
    m.screen (.call method [e] t) = m.screen e := by
  have hnodes : (Expr.call method [e] t).nodes = .call method [e] t :: e.nodes := by
    rw [Expr.nodes, Expr.nodesOf, Expr.nodesOf, List.append_nil]
  unfold screen
  rw [hnodes, List.find?_cons_of_neg (by simp [Expr.isCond])]

/-- A memory evaluates what it does not refuse. -/
theorem result_value_eq (e : Expr) :
    (m.value e).result = m.screen e >>= fun _ => m.table.evalClosed e := by
  simp only [value, Run.result_bind, Run.result_tell, Run.result_ofExcept]
  rfl

/-- **A summary**: its value is a summary of what the sequence comes to, and it is refused where
    the sequence is. -/
theorem result_value_summary {op : QueryOp} (hop : op.isSummary = true) (e : Expr) (t : Ty) :
    (m.value (.callNamed op.name [e] t)).result
      = (m.value e).result >>= fun v => v.elements >>= Value.summarize op := by
  rw [Expr.callNamed, result_value_eq, result_value_eq, screen_call, Table.evalClosed,
    Table.eval_call_one, Table.queryAlone_summary hop, bind_assoc]
  rfl

/-- A list as batches; nothing else can be delivered. -/
def deliver : Value → Except Fault Batches
  | .list rows => .ok (Cursor.ofRows rows m.settings.batchSize.toNat).batches
  | v => .error (.resultNotASequence v.kind)

variable {m} in
include hc in
/-- What is delivered does not fail any more. -/
theorem gather_deliver {v : Value} {bs : Batches} (h : m.deliver v = .ok bs) :
    ∃ rows, v = .list rows ∧ bs.gather c = .ok rows := by
  cases v with
  | list rows =>
    cases h
    exact ⟨rows, rfl, Cursor.gather_ofRows hc _ _⟩
  | _ => cases h

variable {m} in
/-- What cannot be delivered has no elements either. -/
theorem elements_of_deliver {v : Value} {f : Fault} (h : m.deliver v = .error f) :
    ∃ g, v.elements = .error g ∧ g.kind = f.kind := by
  cases v <;> cases h <;> exact ⟨_, rfl, rfl⟩

/-- What is made of the rows that are delivered does not depend on the size of the batches, if it
    does not depend on how rows are put into batches. -/
theorem deliver_inBatchesOf (size : UInt64) {α : Type} {f : Batches → Except Fault α}
    {g : List Value → Except Fault α} (h : ∀ rows n, f (Cursor.ofRows rows n).batches = g rows)
    (v : Value) : ((m.inBatchesOf size).deliver v >>= f) = (m.deliver v >>= f) := by
  cases v with
  | list rows => exact (h rows _).trans (h rows _).symm
  | _ => rfl

theorem result_rows_eq (e : Expr) : (m.rows e).result = (m.value e).result >>= m.deliver := by
  rw [rows, Run.result_bind]
  refine congrArg ((m.value e).result >>= ·) (funext fun v => ?_)
  cases v <;> rfl

end Memory

namespace Query

/-! ### Making a call ready -/

/-- A tree is made ready in the same way inside of a call. -/
theorem result_ready_call (q : Query) (m : Method) (e : Expr) (t : Ty) :
    (q.ready (.call m [e] t)).result = (q.ready e).result.map fun r => .call m [r] t := by
  have hrun := Strategy.result_run_within
    (Rule.preparing_passesBy m t q.backend.data q.settings) e
  rw [ready, ready, Run.result_bind, Run.result_bind, hrun]
  cases ((Strategy.preparing q.backend.data q.settings).run e).result with
  | error f => rfl
  | ok report => cases q.settings.keepTrace <;> rfl

variable {m : Memory} {q : Query} {c : Combinators}

/-- What a summary of a query comes to, given what the query itself does. -/
theorem result_value_summary (hq : q.backend = m.backend) {op : QueryOp}
    (hop : op.isSummary = true) (e : Expr) (t : Ty) :
    (q.value (.callNamed op.name [e] t)).result
      = (q.value e).result >>= fun v => v.elements >>= Value.summarize op := by
  rw [value, value, Run.result_bind, Run.result_bind, Expr.callNamed, result_ready_call, hq]
  cases (q.ready e).result with
  | error f => rfl
  | ok r => exact m.result_value_summary hop r t

/-- What the rows of a query come to, given what the query itself does. -/
theorem result_rows_eq (hq : q.backend = m.backend) (e : Expr) :
    (q.rows e).result = (q.value e).result >>= m.deliver := by
  rw [rows, value, Run.result_bind, Run.result_bind, hq, bind_assoc]
  exact congrArg ((q.ready e).result >>= ·) (funext m.result_rows_eq)

/-! ### What running a query comes to -/

/-- The rows as a list are the list that the query comes to. -/
theorem result_toList (hq : q.backend = m.backend) :
    (q.toList c).result = (q.value q.expr).result >>= m.deliver >>= (Batches.gather · c) := by
  rw [toList, batches, Run.result_bind, result_rows_eq hq]
  rfl

/-- What running a query comes to if its rows are these. -/
structure Delivers (q : Query) (c : Combinators) (rows : List Value) : Prop where
  /-- There are as many as are counted, as long as there are no more of them than integers. -/
  count : (rows.length : Int) ≤ Int64.maxValue.toInt →
    ∃ n : Int64, q.count.result = .ok n ∧ n.toInt = rows.length
  any : q.any.result = .ok !rows.isEmpty
  first : ∀ v rest, rows = v :: rest → q.first.result = .ok v
  noFirst : rows = [] → q.first.FailsAs .execution
  batches : ∃ bs : List (List Value), q.batches.result = .ok (bs.map .ok) ∧ bs.flatten = rows
  items : (q.items c).result = .ok (rows.map .ok)

/-- Whatever the query is run for, it fails with a fault of this class. -/
structure FailsAs (q : Query) (c : Combinators) (k : FaultKind) : Prop where
  count : q.count.FailsAs k
  any : q.any.FailsAs k
  first : q.first.FailsAs k
  batches : q.batches.FailsAs k
  items : (q.items c).FailsAs k

/-- The two queries come to the same in every way, but for how their rows are put into batches. -/
structure Agrees (q q' : Query) (c : Combinators) : Prop where
  toList : (q.toList c).result = (q'.toList c).result
  count : q.count.result = q'.count.result
  any : q.any.result = q'.any.result
  first : q.first.result = q'.first.result
  items : (q.items c).result = (q'.items c).result

/-- A query that comes to a list delivers it. -/
theorem delivers_of_value (hc : c.Lawful) (hq : q.backend = m.backend) {rows : List Value}
    (h : (q.value q.expr).result = .ok (.list rows)) : q.Delivers c rows := by
  have hsummary {op : QueryOp} (hop : op.isSummary = true) (t : Ty) :
      (q.value (.callNamed op.name [q.expr] t)).result = Value.summarize op rows := by
    rw [result_value_summary hq hop, h]
    rfl
  have hbatches : q.batches.result
      = .ok (Cursor.ofRows rows m.settings.batchSize.toNat).batches := by
    rw [batches, result_rows_eq hq, h]
    rfl
  constructor
  · intro hlength
    obtain ⟨n, hn, hint⟩ := Value.ofLength_eq_ok hlength
    refine ⟨n, ?_, hint⟩
    have hcount : (q.value q.expr.counted).result = .ok (.int64 n) := (hsummary rfl _).trans hn
    rw [count, Run.result_bind, hcount]
    rfl
  · have hany : (q.value q.expr.nonempty).result = .ok (.bool !rows.isEmpty) := hsummary rfl _
    rw [any, Run.result_bind, hany]
    rfl
  · rintro v rest rfl
    exact hsummary rfl _
  · rintro rfl
    exact ⟨.noMatch, hsummary rfl _, rfl⟩
  · refine ⟨_, hbatches, ?_⟩
    exact Cursor.flatten_take _ _ (Cursor.length_le_remaining _)
  · rw [items, Run.result_bind, hbatches]
    exact congrArg Except.ok (Cursor.items_ofRows hc rows _)

/-- Batches of rows in memory do not fail, so that it is their delivery that does. -/
theorem deliver_of_toList (hc : c.Lawful) (hq : q.backend = m.backend) {f : Fault}
    (h : (q.toList c).result = .error f) : ((q.value q.expr).result >>= m.deliver) = .error f := by
  rw [result_toList hq] at h
  cases hx : (q.value q.expr).result >>= m.deliver with
  | error g =>
    rw [hx] at h
    cases h
    rfl
  | ok bs =>
    obtain ⟨v, _, hbs⟩ := bind_eq_ok.mp hx
    obtain ⟨rows, _, hrows⟩ := Memory.gather_deliver hc hbs
    rw [hx] at h
    exact absurd (hrows.symm.trans h) (by simp)

/-- A summary fails where the delivery does, with a fault of the same class. -/
theorem summary_of_deliver (hq : q.backend = m.backend) {f : Fault}
    (h : ((q.value q.expr).result >>= m.deliver) = .error f) :
    ∃ g : Fault, g.kind = f.kind ∧ ∀ {op : QueryOp}, op.isSummary = true → ∀ t : Ty,
      (q.value (.callNamed op.name [q.expr] t)).result = .error g := by
  cases hx : (q.value q.expr).result with
  | error g =>
    rw [hx] at h
    have hgf : g = f := Except.error.inj h
    refine ⟨f, rfl, fun hop t => ?_⟩
    rw [result_value_summary hq hop, hx, hgf]
    rfl
  | ok v =>
    rw [hx] at h
    obtain ⟨g, hg, hkind⟩ := Memory.elements_of_deliver h
    refine ⟨g, hkind, fun hop t => ?_⟩
    rw [result_value_summary hq hop, hx]
    show v.elements >>= _ = _
    rw [hg]
    rfl

/-- A query whose rows fail fails in every way. -/
theorem failsAs_of_toList (hc : c.Lawful) (hq : q.backend = m.backend) {f : Fault}
    (h : (q.toList c).result = .error f) : q.FailsAs c f.kind := by
  have hdeliver := deliver_of_toList hc hq h
  have hbatches : q.batches.result = .error f := (result_rows_eq hq q.expr).trans hdeliver
  obtain ⟨g, hkind, hsummary⟩ := summary_of_deliver hq hdeliver
  constructor
  · refine ⟨g, ?_, hkind⟩
    have hcount : (q.value q.expr.counted).result = .error g := hsummary rfl _
    rw [count, Run.result_bind, hcount]
    rfl
  · refine ⟨g, ?_, hkind⟩
    have hany : (q.value q.expr.nonempty).result = .error g := hsummary rfl _
    rw [any, Run.result_bind, hany]
    rfl
  · exact ⟨g, hsummary rfl _, hkind⟩
  · exact ⟨f, hbatches, rfl⟩
  · refine ⟨f, ?_, rfl⟩
    rw [items, Run.result_bind, hbatches]
    rfl

/-- The same query over another backend. -/
def withBackend (q : Query) (b : Backend) : Query := { q with backend := b }

section Batches

variable (hq : q.backend = m.backend) (size : UInt64)
include hq

/-- What a query comes to does not depend on the size of the batches. -/
theorem result_value_inBatchesOf (e : Expr) :
    ((q.withBackend (m.inBatchesOf size).backend).value e).result = (q.value e).result := by
  obtain ⟨backend, expr, settings⟩ := q
  cases hq
  rfl

/-- **The size of the batches** makes no difference but to the batches. -/
theorem agrees_inBatchesOf (hc : c.Lawful) :
    (q.withBackend (m.inBatchesOf size).backend).Agrees q c := by
  have hvalue := result_value_inBatchesOf hq size
  constructor
  · rw [result_toList rfl, result_toList hq, hvalue, bind_assoc, bind_assoc]
    exact congrArg ((q.value q.expr).result >>= ·)
      (funext (m.deliver_inBatchesOf size (Cursor.gather_ofRows hc)))
  · rw [count, count, Run.result_bind, Run.result_bind]
    exact congrArg (· >>= _) (hvalue q.expr.counted)
  · rw [any, any, Run.result_bind, Run.result_bind]
    exact congrArg (· >>= _) (hvalue q.expr.nonempty)
  · exact hvalue q.expr.firstOf
  · have hitems (rows : List Value) (n : Nat) :
        (Except.ok ((Cursor.ofRows rows n).batches.items c) : Except Fault _)
          = .ok (rows.map .ok) :=
      congrArg Except.ok (Cursor.items_ofRows hc rows n)
    rw [items, items, Run.result_bind, Run.result_bind, batches, batches, result_rows_eq rfl,
      result_rows_eq hq, hvalue, bind_assoc, bind_assoc]
    exact congrArg ((q.value q.expr).result >>= ·) (funext (m.deliver_inBatchesOf size hitems))

end Batches

/-- **All ways to run a query agree.**  Take any query over rows in memory, strict or not, made
    ready by any settings, and lawful combinators for its batches.  If it gives its rows as a list,
    then it counts them, tells whether there is one, gives the first one, and delivers them in batches
    and one by one; and if it fails to, it fails in every other way, with a fault of the same class.
    The size of the batches makes no difference to any of this. -/
theorem terminals_agree (hc : c.Lawful) (h : Reachable m.backend q) :
    (∀ rows, (q.toList c).result = .ok rows → q.Delivers c rows)
      ∧ (∀ f, (q.toList c).result = .error f → q.FailsAs c f.kind)
      ∧ ∀ size, (q.withBackend (m.inBatchesOf size).backend).Agrees q c := by
  have hq : q.backend = m.backend := (h.rooted rfl).backend
  refine ⟨fun rows hrows => ?_, fun f hf => failsAs_of_toList hc hq hf, fun size => ?_⟩
  · rw [result_toList hq] at hrows
    obtain ⟨bs, hbs, hgather⟩ := bind_eq_ok.mp hrows
    obtain ⟨v, hv, hdeliver⟩ := bind_eq_ok.mp hbs
    obtain ⟨rows', rfl, hrows'⟩ := Memory.gather_deliver hc hdeliver
    cases hgather.symm.trans hrows'
    exact delivers_of_value hc hq hv
  · exact agrees_inBatchesOf hq size hc

end Query

namespace Samples

/-- The directory, which refuses choices. -/
def strictDirectory : Memory := { directory with settings := .strictly }

end Samples

/-- A filter that two people pass, and one with a choice that is no guard, which is refused. -/
theorem Query.terminals_agree_directory :
    (∃ q, (Query.ofBackend Samples.directory.backend).call (.filter Samples.flaggedInCompany)
          = .ok q
        ∧ Query.Reachable Samples.directory.backend q
        ∧ ∃ rows, (q.toList .plain).result = .ok rows ∧ rows.length = 2 ∧ q.Delivers .plain rows)
      ∧ ∃ q, (Query.ofBackend Samples.strictDirectory.backend).call
          (.filter (Samples.condition Samples.oppositeGuard)) = .ok q
        ∧ Query.Reachable Samples.strictDirectory.backend q
        ∧ (q.toList .plain).result = .error (.refused Memory.backendName Samples.oppositeGuard)
        ∧ q.FailsAs .plain .unsupported := by
  constructor
  · refine ⟨_, rfl, ?_⟩
    have hreach := Query.Reachable.call (b := Samples.directory.backend)
      (c := .filter Samples.flaggedInCompany) .ofBackend rfl
    have hways := Query.terminals_agree Combinators.plain_lawful hreach
    exact ⟨hreach, _, rfl, rfl, hways.1 _ rfl⟩
  · refine ⟨_, rfl, ?_⟩
    have hreach := Query.Reachable.call (b := Samples.strictDirectory.backend)
      (c := .filter (Samples.condition Samples.oppositeGuard)) .ofBackend rfl
    have hways := Query.terminals_agree Combinators.plain_lawful hreach
    exact ⟨hreach, rfl, hways.2.1 _ rfl⟩

end GuardErasure
