import GuardErasure.Proofs.Guard.Tolerance
import GuardErasure.Proofs.Query.Terminals

namespace GuardErasure

/-!
# Summaries with a predicate

A summary counts elements, asks for one or gives the first one, of a whole sequence or of the elements
that a predicate accepts.

* `Value.keepWhere_eq_ok`, `Value.keepWhere_eq_error` — what filtering by a test that may fail comes to;
* `Table.Matches`, `Table.FailsFirst` — the elements that count, and the first fault on the way to them;
* `Table.eval_called` — a summary sums up the elements that count;
* `Table.eval_summaries` — so a predicate might as well stand in a filter, and the three summaries agree.
-/

namespace Value

variable {test : Value → Except Fault Bool} {items kept : List Value}

/-- A filter that succeeds has an answer for every element, and keeps those for which it is yes. -/
theorem keepWhere_eq_ok {accepts : Value → Bool} (haccepts : ∀ v b, test v = .ok b → accepts v = b)
    (h : keepWhere test items = .ok kept) :
    (∀ v ∈ items, ∃ b, test v = .ok b) ∧ kept = items.filter accepts := by
  induction items generalizing kept with
  | nil =>
    cases h
    exact ⟨List.forall_mem_nil _, rfl⟩
  | cons v vs ih =>
    obtain ⟨b, hb, h⟩ := bind_eq_ok.mp h
    have hv : accepts v = b := haccepts v b hb
    cases b with
    | true =>
      obtain ⟨rest, hrest, h⟩ := bind_eq_ok.mp h
      cases h
      obtain ⟨hall, rfl⟩ := ih hrest
      exact ⟨List.forall_mem_cons.mpr ⟨⟨true, hb⟩, hall⟩, (List.filter_cons_of_pos hv).symm⟩
    | false =>
      obtain ⟨hall, rfl⟩ := ih h
      refine ⟨List.forall_mem_cons.mpr ⟨⟨false, hb⟩, hall⟩, (List.filter_cons_of_neg ?_).symm⟩
      simp [hv]

/-- A filter that fails does so at the first element for which it has no answer. -/
theorem keepWhere_eq_error {f : Fault} (h : keepWhere test items = .error f) :
    ∃ before v after, items = before ++ v :: after ∧ (∀ w ∈ before, ∃ b, test w = .ok b)
      ∧ test v = .error f := by
  induction items with
  | nil => cases h
  | cons v vs ih =>
    obtain hv | ⟨b, hb, h⟩ := bind_eq_error.mp h
    · exact ⟨[], v, vs, rfl, List.forall_mem_nil _, hv⟩
    · -- whether the element is kept or not, it is one of those further on that has no answer
      have hrest : keepWhere test vs = .error f := by
        cases b with
        | false => exact h
        | true =>
          obtain hrest | ⟨rest, -, h⟩ := bind_eq_error.mp h
          · exact hrest
          · cases h
      obtain ⟨before, w, after, rfl, hbefore, hw⟩ := ih hrest
      exact ⟨v :: before, w, after, rfl, List.forall_mem_cons.mpr ⟨⟨b, hb⟩, hbefore⟩, hw⟩

/-- What the three summaries come to if these are the elements that count. -/
structure Summaries (kept : List Value) (value : QueryOp → Except Fault Value) : Prop where
  count : ∃ n : Int64, value .count = .ok (.int64 n) ∧ n.toInt = kept.length
  any : value .any = .ok (.bool (decide (0 < kept.length)))
  first : ∀ v rest, kept = v :: rest → value .first = .ok v
  noFirst : kept = [] → ∃ f, value .first = .error f ∧ f.kind = .execution

/-- Values that sum up the elements that count, as long as there are no more of them than integers. -/
theorem summaries_of_eq {value : QueryOp → Except Fault Value}
    (hvalue : ∀ op : QueryOp, op.isSummary = true → value op = summarize op kept)
    (hlength : (kept.length : Int) ≤ Int64.maxValue.toInt) : Summaries kept value := by
  obtain ⟨n, hn, hint⟩ := ofLength_eq_ok hlength
  refine ⟨⟨n, (hvalue .count rfl).trans hn, hint⟩, ?_, ?_, ?_⟩
  · rw [hvalue .any rfl]
    cases kept <;> rfl
  · rintro v rest rfl
    exact hvalue .first rfl
  · rintro rfl
    exact ⟨.noMatch, hvalue .first rfl, rfl⟩

end Value

/-- A call of the operator, whatever is stored in it beside the name. -/
def QueryOp.called (op : QueryOp) (args : List Expr) (stored : Bool × Ty) : Expr :=
  .call ⟨op.name, stored.1⟩ args stored.2

namespace Table

variable (t : Table) (env : Scope) (seq : Expr)

/-- What a predicate says of an element. -/
def judge (p : Expr) (v : Value) : Except Fault Bool := t.applyFn p v env >>= Value.verdict

/-- Does a predicate accept an element?  It does if it is true of it. -/
def accepts (p : Expr) (v : Value) : Bool :=
  match t.applyFn p v env with
  | .ok (.bool true) => true
  | _ => false

/-- The elements that count, in the order of the sequence: all of them, or those that a predicate
    accepts which has something to say of each. -/
inductive Matches : Option Expr → List Value → Prop where
  | all {items : List Value} (h : t.evalList seq env = .ok items) : Matches none items
  | accepted {p : Expr} {items : List Value} (h : t.evalList seq env = .ok items)
      (hp : ∀ v ∈ items, ∃ b, t.judge env p v = .ok b) :
      Matches (some p) (items.filter (t.accepts env p))

/-- The first fault on the way to them: that of the sequence, or that of the first element of which the
    predicate has nothing to say. -/
inductive FailsFirst : Option Expr → Fault → Prop where
  | sequence {predicate : Option Expr} {f : Fault} (h : t.evalList seq env = .error f) :
      FailsFirst predicate f
  | element {p : Expr} {before after : List Value} {v : Value} {f : Fault}
      (h : t.evalList seq env = .ok (before ++ v :: after))
      (hbefore : ∀ w ∈ before, ∃ b, t.judge env p w = .ok b) (hv : t.judge env p v = .error f) :
      FailsFirst (some p) f

/-- The elements that count, or a fault. -/
def matching (predicate : Option Expr) : Except Fault (List Value) :=
  t.evalList seq env >>= fun items =>
    predicate.elim (.ok items) fun p => Value.keepWhere (t.judge env p) items

variable {t env seq}

/-- A predicate that says yes accepts, and one that says no does not. -/
theorem accepts_of_judge {p : Expr} {v : Value} {b : Bool} (h : t.judge env p v = .ok b) :
    t.accepts env p v = b := by
  obtain ⟨w, hw, hb⟩ := bind_eq_ok.mp h
  rw [accepts, hw]
  cases w with
  | null =>
    cases hb
    rfl
  | bool _ =>
    cases hb
    cases b <;> rfl
  | _ => cases hb

theorem matches_of_matching {predicate : Option Expr} {kept : List Value}
    (h : t.matching env seq predicate = .ok kept) : t.Matches env seq predicate kept := by
  obtain ⟨items, hitems, hkept⟩ := bind_eq_ok.mp h
  cases predicate with
  | none =>
    cases hkept
    exact .all hitems
  | some p =>
    obtain ⟨hall, rfl⟩ := Value.keepWhere_eq_ok (fun _ _ => accepts_of_judge) hkept
    exact .accepted hitems hall

theorem failsFirst_of_matching {predicate : Option Expr} {f : Fault}
    (h : t.matching env seq predicate = .error f) : t.FailsFirst env seq predicate f := by
  obtain hitems | ⟨items, hitems, hkept⟩ := bind_eq_error.mp h
  · exact .sequence hitems
  · cases predicate with
    | none => cases hkept
    | some p =>
      obtain ⟨before, v, after, rfl, hbefore, hv⟩ := Value.keepWhere_eq_error hkept
      exact .element hitems hbefore hv

/-- There are no more elements that count than elements. -/
theorem length_le_of_matches {predicate : Option Expr} {kept : List Value} {n : Int}
    (hlength : ∀ items, t.evalList seq env = .ok items → (items.length : Int) ≤ n)
    (h : t.Matches env seq predicate kept) : (kept.length : Int) ≤ n := by
  cases h with
  | all h => exact hlength kept h
  | @accepted p items h =>
    have hle : (items.filter (t.accepts env p)).length ≤ items.length := List.length_filter_le _ _
    have hitems := hlength items h
    omega

/-- Without a predicate all elements count. -/
theorem matching_none : t.matching env seq none = t.evalList seq env := by
  rw [matching]
  cases t.evalList seq env <;> rfl

/-- **A summary** sums up the elements that count. -/
theorem eval_called {op : QueryOp} (hop : op.isSummary = true) (predicate : Option Expr)
    (stored : Bool × Ty) :
    t.eval (op.called (seq :: predicate.toList) stored) env
      = t.matching env seq predicate >>= Value.summarize op := by
  cases predicate with
  | none =>
    rw [matching_none, evalList, bind_assoc]
    exact (t.eval_call_one env ⟨op.name, stored.1⟩ seq stored.2).trans
      (queryAlone_summary hop (t.eval seq env))
  | some p =>
    have hwith := t.eval_call_two env ⟨op.name, stored.1⟩ seq p [] stored.2
    rw [matching, evalList, bind_assoc, bind_assoc]
    cases op <;> first | exact hwith | cases hop

/-- A filter is the elements that count. -/
theorem evalList_called_filter (p : Expr) (stored : Bool × Ty) :
    t.evalList (QueryOp.filter.called [seq, p] stored) env = t.matching env seq (some p) := by
  have hfilter : t.eval (QueryOp.filter.called [seq, p] stored) env
      = t.matching env seq (some p) >>= fun kept => .ok (.list kept) := by
    rw [matching, evalList, bind_assoc, bind_assoc]
    exact t.eval_call_two env ⟨QueryOp.filter.name, stored.1⟩ seq p [] stored.2
  rw [evalList, hfilter, bind_assoc]
  cases t.matching env seq (some p) <;> rfl

end Table

/-- **Summaries agree with filters and with each other.**  A summary of the elements that a predicate
    accepts is the summary of the sequence filtered by the predicate, in its value as in its fault.
    And with a predicate or without, over a sequence that has no more elements than there are integers,
    either all three summaries fail with the first fault that there is, or there is a list of elements
    that count, in the order of the sequence: they are counted, whether there is one is told, and the
    first one is given, or it is a fault that there is none. -/
theorem Table.eval_summaries (t : Table) (env : Scope) (seq : Expr) :
    (∀ (op : QueryOp) (p : Expr) (alone filter around : Bool × Ty), op.isSummary = true →
        t.eval (op.called [seq, p] alone) env
          = t.eval (op.called [QueryOp.filter.called [seq, p] filter] around) env)
      ∧ ∀ (predicate : Option Expr) (stored : QueryOp → Bool × Ty),
        (∀ items, t.evalList seq env = .ok items → (items.length : Int) ≤ Int64.maxValue.toInt) →
          (∃ f, t.FailsFirst env seq predicate f ∧ ∀ op : QueryOp, op.isSummary = true →
            t.eval (op.called (seq :: predicate.toList) (stored op)) env = .error f)
          ∨ ∃ kept, t.Matches env seq predicate kept
            ∧ Value.Summaries kept fun op =>
              t.eval (op.called (seq :: predicate.toList) (stored op)) env := by
  constructor
  · intro op p alone filter around hop
    -- a summary of what is filtered has no predicate of its own any more
    have hfiltered : t.eval (op.called [QueryOp.filter.called [seq, p] filter] around) env
        = t.matching env (QueryOp.filter.called [seq, p] filter) none >>= Value.summarize op :=
      eval_called hop none around
    rw [matching_none, evalList_called_filter] at hfiltered
    exact (eval_called hop (some p) alone).trans hfiltered.symm
  · intro predicate stored hlength
    have hvalue (op : QueryOp) (hop : op.isSummary = true) :
        t.eval (op.called (seq :: predicate.toList) (stored op)) env
          = t.matching env seq predicate >>= Value.summarize op :=
      eval_called hop predicate (stored op)
    cases hmatching : t.matching env seq predicate with
    | error f =>
      refine .inl ⟨f, failsFirst_of_matching hmatching, fun op hop => ?_⟩
      rw [hvalue op hop, hmatching]
      rfl
    | ok kept =>
      have hmatches := matches_of_matching hmatching
      refine .inr ⟨kept, hmatches, Value.summaries_of_eq (fun op hop => ?_)
        (length_le_of_matches hlength hmatches)⟩
      rw [hvalue op hop, hmatching]
      rfl

namespace Samples

/-- A person with a flag that is set; a flag that is missing is no reason. -/
def ifFlagged : Expr := (condition flag).unarySame .quote

/-- The flag of a person, and the name of one without. -/
def flagOrName : Expr := condition (.choose flag.eqNull name flag)

end Samples

/-- Of four people one has a flag that is set.  The other predicate has something to say of the first of
    them only, so that every summary fails at the second one. -/
theorem Table.eval_summaries_fewFlags :
    (∀ items, Samples.fewFlags.evalList Samples.allPeople {} = .ok items →
        (items.length : Int) ≤ Int64.maxValue.toInt)
      ∧ (∃ kept, Samples.fewFlags.Matches {} Samples.allPeople (some Samples.ifFlagged) kept
        ∧ Value.Summaries kept fun op =>
          Samples.fewFlags.eval (op.called [Samples.allPeople, Samples.ifFlagged] (true, .object)) {})
      ∧ (∃ f, Samples.fewFlags.FailsFirst {} Samples.allPeople (some Samples.flagOrName) f
        ∧ f.kind = .type ∧ ∀ op : QueryOp, op.isSummary = true →
          Samples.fewFlags.eval (op.called [Samples.allPeople, Samples.flagOrName] (true, .object)) {}
            = .error f)
      ∧ Samples.fewFlags.eval (QueryOp.first.called
          [QueryOp.filter.called [Samples.allPeople, Samples.ifFlagged] (true, .object)]
          (true, .object)) {}
        = .ok (Samples.row (some "Ann") (some true) none) := by
  have hlength : ∀ items, Samples.fewFlags.evalList Samples.allPeople {} = .ok items →
      (items.length : Int) ≤ Int64.maxValue.toInt := by
    rintro _ ⟨⟩
    decide
  obtain ⟨hfilter, hagree⟩ := eval_summaries Samples.fewFlags {} Samples.allPeople
  refine ⟨hlength, ?_, ?_, ?_⟩
  · rcases hagree (some Samples.ifFlagged) (fun _ => (true, .object)) hlength with ⟨f, -, hf⟩ | hkept
    · have hany : Except.ok (Value.bool true) = .error f := hf .any rfl
      cases hany
    · exact hkept
  · rcases hagree (some Samples.flagOrName) (fun _ => (true, .object)) hlength
      with ⟨f, hfirst, hf⟩ | ⟨kept, -, hkept⟩
    · have hany : (.error (.predicateNotBool .string) : Except Fault Value) = .error f := hf .any rfl
      cases hany
      exact ⟨_, hfirst, rfl, hf⟩
    · have hany : (.error (.predicateNotBool .string) : Except Fault Value) = .ok _ := hkept.any
      cases hany
  · exact (hfilter .first Samples.ifFlagged (true, .object) (true, .object) (true, .object)
      rfl).symm.trans rfl

end GuardErasure
