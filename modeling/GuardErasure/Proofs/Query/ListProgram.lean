import GuardErasure.Proofs.Guard.Alike
import GuardErasure.Proofs.Query.Delivery
import GuardErasure.Proofs.Query.Rooted

namespace GuardErasure

/-!
# Queries over rows in memory as list programs

A query over rows in memory does to the rows what its operators say, one after another:

* `Memory.handed` — what a memory is handed for a tree: its own data in the place of the roots,
  and no guards;
* `Memory.onList`, `Memory.listProgram` — an operator on a list, and several of them on the rows;
* `Memory.eval_handed_onto` — one operator: the value over a sequence is that of the list program;
* `Memory.eval_handed_calls` — any number of them, by induction on the calls;
* `Query.toList_eq_listProgram` — all rows of a query, faults included.
-/

/-- Keeping the elements that pass a test is filtering with a test that may fail. -/
theorem Value.keepWhere_eq_filterM (p : Value → Except Fault Bool) (vs : List Value) :
    keepWhere p vs = vs.filterM p := by
  -- the library collects what it keeps in reverse
  have haux (vs acc : List Value) :
      List.filterAuxM p vs acc = (keepWhere p vs).map (·.reverse ++ acc) := by
    induction vs generalizing acc with
    | nil => rfl
    | cons v vs ih =>
      rw [List.filterAuxM, keepWhere]
      cases p v with
      | error f => rfl
      | ok b =>
        show List.filterAuxM p vs (bif b then v :: acc else acc) = Except.map _ (if b then _ else _)
        rw [ih]
        cases b <;> cases keepWhere p vs <;> simp [Except.map, bind, Except.bind, pure, Except.pure]
  rw [List.filterM, haux]
  cases keepWhere p vs <;> simp [Except.map, bind, Except.bind, pure, Except.pure]

namespace Memory

variable {m : Memory}

/-! ### What a memory is handed -/

/-- What a memory is handed for a tree that is made ready in the usual way: its own data in the
    place of the roots, and no guards. -/
def handed (m : Memory) (e : Expr) : Expr := eraseGuards (Rule.splice m.data e)

theorem prepared_eq_handed (m : Memory) (e : Expr) :
    Strategy.prepared m.data {} e = m.handed e := by
  have hmatch (t f : Expr) : (Rule.shapeOf {}).match? t f = Shape.both.match? t f := rfl
  exact Shape.erase_congr hmatch (Rule.splice m.data e)

theorem handed_root (m : Memory) : m.handed (.root m.element) = m.data := by
  have helement : m.data.ty.element? = some m.element := rfl
  rw [handed, Rule.splice_root, if_pos helement]
  rfl

/-- Operators stay where they are; what they are passed is handed over by itself. -/
theorem handed_call (m : Memory) (method : Method) (args : List Expr) (t : Ty) :
    m.handed (.call method args t) = .call method (args.map m.handed) t := by
  rw [handed, Rule.splice_call, eraseGuards, Shape.erase_eq_swept, Shape.swept_call, List.map_map]
  rfl

/-! ### List programs -/

/-- What a composing operator does to a list. -/
def onList (m : Memory) : Query.Call → List Value → Except Fault (List Value)
  | .filter predicate, vs => vs.filterM fun v => do
    Value.verdict (← m.table.applyFn (m.handed predicate) v {})
  | .map projection _, vs => vs.mapM fun v => m.table.applyFn (m.handed projection) v {}
  | .take n, vs => .ok (vs.take n.toInt.toNat)
  | .skip n, vs => .ok (vs.drop n.toInt.toNat)

/-- What composing operators do to the rows, one after another, up to the first fault. -/
def listProgram (m : Memory) (cs : List Query.Call) : Except Fault (List Value) :=
  cs.foldlM (fun vs c => m.onList c vs) m.table.rows

theorem countArgument_of_check {operator name : String} {n : Int64}
    (h : Query.requireCount operator n = .ok ()) :
    Value.countArgument name (.int64 n) = .ok n.toInt.toNat := by
  unfold Query.requireCount at h
  split at h
  · exact if_pos ‹_›
  · cases h

/-- **One operator.**  Its value over a sequence is what it does to the list of the sequence. -/
theorem eval_handed_onto {c : Query.Call} {seq : Expr} {rows : Except Fault (List Value)}
    (hcheck : c.check = .ok ())
    (hseq : m.table.eval (m.handed seq) {} = rows.map .list) :
    m.table.eval (m.handed (c.onto seq)) {} = (rows >>= m.onList c).map .list := by
  have hcall (name : String) (second : Expr) (t : Ty) :
      m.table.eval (m.handed (.callNamed name [seq, second] t)) {}
        = Table.queryWith (.free name) (rows.map .list) (m.table.eval (m.handed second) {})
          fun v => m.table.applyFn (m.handed second) v {} := by
    rw [Expr.callNamed, handed_call, List.map_cons, List.map_cons, Table.eval_call_two, hseq]
  cases c with
  | filter predicate =>
    refine (hcall _ _ _).trans ?_
    cases rows with
    | error f => rfl
    | ok vs => exact congrArg (Except.map Value.list) (Value.keepWhere_eq_filterM _ vs)
  | map projection element =>
    refine (hcall _ _ _).trans ?_
    cases rows <;> rfl
  | take n =>
    -- the count is evaluated before the sequence, so it must not fail where the sequence does
    have hn : Value.countArgument QueryOp.take.name (.int64 n) = .ok n.toInt.toNat :=
      countArgument_of_check hcheck
    refine (hcall _ _ _).trans ?_
    show (Value.countArgument QueryOp.take.name (.int64 n) >>= _) = _
    rw [hn]
    cases rows <;> rfl
  | skip n =>
    have hn : Value.countArgument QueryOp.skip.name (.int64 n) = .ok n.toInt.toNat :=
      countArgument_of_check hcheck
    refine (hcall _ _ _).trans ?_
    show (Value.countArgument QueryOp.skip.name (.int64 n) >>= _) = _
    rw [hn]
    cases rows <;> rfl

/-- **Any number of operators**, by induction on the calls. -/
theorem eval_handed_calls {cs : List Query.Call} {q q' : Query}
    {rows : Except Fault (List Value)} (hcalls : cs.foldlM Query.call q = .ok q')
    (hq : m.table.eval (m.handed q.expr) {} = rows.map .list) :
    m.table.eval (m.handed q'.expr) {}
      = (rows >>= fun vs => cs.foldlM (fun vs c => m.onList c vs) vs).map .list := by
  induction cs generalizing q rows with
  | nil =>
    cases hcalls
    rw [hq]
    cases rows <;> rfl
  | cons c cs ih =>
    rw [List.foldlM_cons] at hcalls
    obtain ⟨q₁, hcall, hrest⟩ := bind_eq_ok.mp hcalls
    obtain ⟨hcheck, hextend⟩ := Query.call_eq_ok hcall
    obtain ⟨_, _, rfl⟩ := Query.extend_eq_ok.mp hextend
    rw [ih hrest (eval_handed_onto hcheck hq), bind_assoc]
    rfl

/-! ### Running -/

/-- Unless it is strict, a memory evaluates what it is handed. -/
theorem result_value (hlax : m.settings.strict = false) (e : Expr) :
    (m.value e).result = m.table.evalClosed e := by
  have hscreen : m.screen e = .ok () := by
    rw [screen, if_neg (by simp [hlax])]
  simp only [value, Run.result_bind, Run.result_tell, Run.result_ofExcept, hscreen]
  rfl

/-- The rows of what evaluates to a list are the elements of that list, whatever the size of the
    batches. -/
theorem gather_rows {c : Combinators} (hc : c.Lawful) (hlax : m.settings.strict = false) {e : Expr}
    {rows : Except Fault (List Value)} (heval : m.table.eval e {} = rows.map .list) :
    ((m.rows e).result >>= (Batches.gather · c)) = rows := by
  rw [Memory.rows, Run.result_bind, result_value hlax, Table.evalClosed, heval]
  cases rows with
  | error f => rfl
  | ok vs => exact Cursor.gather_ofRows hc vs m.settings.batchSize.toNat

end Memory

namespace Query

variable {m : Memory}

/-- Composing operators leave a rooted query rooted, and do not change its settings. -/
theorem rooted_calls {b : Backend} {cs : List Call} {q q' : Query}
    (hcalls : cs.foldlM call q = .ok q') (hq : Rooted b q) :
    Rooted b q' ∧ q'.settings = q.settings := by
  induction cs generalizing q with
  | nil =>
    cases hcalls
    exact ⟨hq, rfl⟩
  | cons c cs ih =>
    rw [List.foldlM_cons] at hcalls
    obtain ⟨q₁, hcall, hrest⟩ := bind_eq_ok.mp hcalls
    have hextend := (call_eq_ok hcall).2
    have hq₁ := rooted_extend hq hextend
    obtain ⟨_, _, rfl⟩ := extend_eq_ok.mp hextend
    have hq' := ih hrest hq₁
    exact hq'

/-- **A query over rows in memory is its list program.**  Whatever operators are composed, with
    the usual settings, over rows in memory that are not strict: all rows of the query, put together
    from its batches by lawful combinators, are what the operators do to the rows one after another,
    each function with the data in the place of its roots and without its guards; and if one of them
    fails, the query fails with the first fault. -/
theorem toList_eq_listProgram {c : Combinators} (hc : c.Lawful) {cs : List Call} {q : Query}
    (hlax : m.settings.strict = false) (hcalls : cs.foldlM call (ofBackend m.backend) = .ok q) :
    (q.toList c).result = m.listProgram cs := by
  have hstart : Rooted m.backend (ofBackend m.backend) := rooted_ofBackend rfl
  obtain ⟨⟨hbackend, _, _, hroots⟩, hsettings⟩ := rooted_calls hcalls hstart
  -- before the first call the query is the data itself
  have hrows : m.table.eval (m.handed (ofBackend m.backend).expr) {}
      = (Except.ok m.table.rows).map .list := by
    show m.table.eval (m.handed (.root m.element)) {} = _
    rw [Memory.handed_root]
    exact if_pos rfl
  have heval := Memory.eval_handed_calls hcalls hrows
  have hready : (q.ready q.expr).result = .ok (m.handed q.expr) := by
    have helement : ∀ t ∈ q.expr.rootElements, m.data.ty.element? = some t := by
      intro t ht
      exact Ty.element?_eq_some.mpr (hroots t ht)
    have honce : ({} : ErasureSettings).maxPasses.toNat ≤ 1 := by decide
    obtain ⟨report, hrun, hexpr⟩ := Strategy.result_run_preparing_once honce helement
    rw [← Memory.prepared_eq_handed, ← hexpr]
    refine result_ready_of_run ?_
    rw [hbackend, hsettings]
    exact hrun
  show (q.rows q.expr >>= fun bs => Run.ofExcept (bs.gather c)).result = _
  rw [Run.result_bind, result_rows hready, hbackend]
  exact Memory.gather_rows hc hlax heval

end Query

namespace Samples

/-- The names of the people with a flag, but for the first of them. -/
def namesInCompany : List Query.Call :=
  [.filter flaggedInCompany, .map (condition name) .string, .skip 1, .take 5]

end Samples

/-- A filter that has a guard and a root of its own, a projection, and two counts. -/
theorem Query.toList_eq_listProgram_names :
    ∃ q, Samples.namesInCompany.foldlM Query.call (.ofBackend Samples.directory.backend) = .ok q
      ∧ (q.toList .plain).result = Samples.directory.listProgram Samples.namesInCompany
      ∧ Samples.directory.listProgram Samples.namesInCompany = .ok [.string " Bo"] :=
  ⟨_, rfl, Query.toList_eq_listProgram Combinators.plain_lawful rfl rfl, rfl⟩

end GuardErasure
