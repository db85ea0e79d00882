import GuardErasure.Proofs.Eval.Follow
import GuardErasure.Proofs.Rules.Preparing
import GuardErasure.Query.Compose

namespace GuardErasure

/-!
# Rooted queries

Whatever is composed over a backend stays a query over the backend's data:

* `Query.Call` — a composing operator and what it is passed; `Query.call` calls it;
* `Query.Reachable` — the queries that can be composed over a backend;
* `Query.Rooted` — they are sequences, with a root, and every root is over the backend's data;
* `Query.rooted_extend`, `Query.Reachable.rooted` — one more step keeps this, and so do any number
  of them;
* `Query.result_ready` — a tree of which every root is over the data is made ready without a
  fault;
* `Query.ready_of_reachable` — hence whatever a reachable query is asked for reaches the backend,
  and without a root.
-/

namespace Query

/-! ### Composing operators -/

/-- A composing operator and what it is passed. -/
inductive Call where
  | filter (predicate : Expr)
  | map (projection : Expr) (element : Ty)
  | take (n : Int64)
  | skip (n : Int64)

namespace Call

/-- May the operator be passed this? -/
def check : Call → Except Fault Unit
  | filter predicate => requireLambda "filter" predicate
  | map projection _ => requireLambda "map" projection
  | take n => requireCount "take" n
  | skip n => requireCount "skip" n

/-- The operator over a sequence. -/
def onto : Call → Expr → Expr
  | filter predicate, seq => seq.filtered predicate
  | map projection element, seq => seq.mapped projection element
  | take n, seq => seq.taken n
  | skip n, seq => seq.skipped n

end Call

/-- One more composing operator. -/
def call (q : Query) : Call → Except Fault Query
  | .filter predicate => q.filter predicate
  | .map projection element => q.map projection element
  | .take n => q.take n
  | .skip n => q.skip n

theorem call_eq_bind (q : Query) (c : Call) :
    q.call c = c.check >>= fun _ => q.extend (c.onto q.expr) := by
  cases c <;> rfl

/-- The roots that a query accepts: there is one, and all are over its own data. -/
theorem requireRoots_eq_ok {q : Query} {e : Expr} :
    q.requireRoots e = .ok () ↔ e.rootElements ≠ [] ∧ ∀ t ∈ e.rootElements, t = q.dataTy := by
  unfold requireRoots
  cases hfind : e.rootElements.find? (· ≠ q.dataTy) with
  | some other =>
    have hother := List.find?_some hfind
    have hmem := List.mem_of_find?_eq_some hfind
    constructor
    · intro h
      cases h
    · rintro ⟨_, hall⟩
      simp [hall other hmem] at hother
  | none =>
    have hall : ∀ t ∈ e.rootElements, t = q.dataTy := by
      simpa using hfind
    cases hroots : e.rootElements with
    | nil => simp
    | cons t ts =>
      rw [hroots] at hall
      simpa using hall

/-- What a query goes on with: a sequence whose roots it accepts. -/
theorem extend_eq_ok {q q' : Query} {e : Expr} :
    q.extend e = .ok q' ↔
      e.ty.isSeq = true ∧ q.requireRoots e = .ok () ∧ q' = { q with expr := e } := by
  unfold extend
  cases e.ty.isSeq with
  | false => simp
  | true =>
    cases q.requireRoots e with
    | error f => simp [bind, Except.bind]
    | ok _ => simp [bind, Except.bind, pure, Except.pure, eq_comm]

/-- A composing operator that is called goes on with itself over the query. -/
theorem call_eq_ok {q q' : Query} {c : Call} (h : q.call c = .ok q') :
    c.check = .ok () ∧ q.extend (c.onto q.expr) = .ok q' := by
  rw [call_eq_bind] at h
  obtain ⟨_, hcheck, hextend⟩ := bind_eq_ok.mp h
  exact ⟨hcheck, hextend⟩

/-! ### Reachable queries -/

/-- The queries that can be composed over a backend.  A copy of a query is the query itself. -/
inductive Reachable (b : Backend) : Query → Prop
  | ofBackend : Reachable b (ofBackend b)
  | withSettings {q : Query} (s : ErasureSettings) :
    Reachable b q → Reachable b (q.withSettings s)
  | extend {q q' : Query} {e : Expr} : Reachable b q → q.extend e = .ok q' → Reachable b q'
  | call {q q' : Query} {c : Call} : Reachable b q → q.call c = .ok q' → Reachable b q'

/-- A sequence over the data of a backend. -/
structure Rooted (b : Backend) (q : Query) : Prop where
  backend : q.backend = b
  isSeq : q.expr.ty.isSeq = true
  hasRoot : q.expr.rootElements ≠ []
  overData : ∀ t ∈ q.expr.rootElements, b.data.ty = .seq t

section Invariant

variable {b : Backend} {q q' : Query}

theorem rooted_ofBackend (hseq : b.data.ty.isSeq = true) : Rooted b (ofBackend b) := by
  obtain ⟨t, ht⟩ := Option.isSome_iff_exists.mp hseq
  have hroots : (ofBackend b).expr.rootElements = [t] := by
    show [b.data.ty.elementOrObject] = [t]
    rw [Ty.elementOrObject, ht]
    rfl
  refine ⟨rfl, rfl, by simp [hroots], ?_⟩
  rw [hroots, List.forall_mem_singleton]
  exact Ty.element?_eq_some.mp ht

/-- The data of a rooted query is the backend's. -/
theorem Rooted.data_ty (h : Rooted b q) : b.data.ty = .seq q.dataTy := by
  unfold dataTy
  cases hroots : q.expr.rootElements with
  | nil => exact absurd hroots h.hasRoot
  | cons t ts => exact h.overData t (by simp [hroots])

/-- Whatever roots a rooted query accepts are over the backend's data. -/
theorem Rooted.of_requireRoots (h : Rooted b q) {e : Expr} (he : q.requireRoots e = .ok ()) :
    ∀ t ∈ e.rootElements, b.data.ty = .seq t := by
  intro t ht
  rw [(requireRoots_eq_ok.mp he).2 t ht]
  exact h.data_ty

/-- **One more step** keeps a query rooted. -/
theorem rooted_extend (h : Rooted b q) {e : Expr} (he : q.extend e = .ok q') : Rooted b q' := by
  obtain ⟨hseq, hroots, rfl⟩ := extend_eq_ok.mp he
  exact ⟨h.backend, hseq, (requireRoots_eq_ok.mp hroots).1, h.of_requireRoots hroots⟩

/-- **Every reachable query is rooted.** -/
theorem Reachable.rooted (hseq : b.data.ty.isSeq = true) (h : Reachable b q) : Rooted b q := by
  induction h with
  | ofBackend => exact rooted_ofBackend hseq
  | withSettings s _ ih => exact ⟨ih.backend, ih.isSeq, ih.hasRoot, ih.overData⟩
  | extend _ he ih => exact rooted_extend ih he
  | call _ hc ih => exact rooted_extend ih (call_eq_ok hc).2

end Invariant

/-! ### Making trees ready -/

section Ready

variable {q : Query} {e r : Expr}

theorem result_ready_of_run {report : Report}
    (h : ((Strategy.preparing q.backend.data q.settings).run e).result = .ok report) :
    (q.ready e).result = .ok report.expr := by
  rw [ready, Run.result_bind, h]
  cases q.settings.keepTrace <;> rfl

/-- **A tree of which every root is over the data** is made ready, and no root is left. -/
theorem result_ready (hdata : q.backend.data.rootElements = [])
    (h : ∀ t ∈ e.rootElements, q.backend.data.ty = .seq t) :
    ∃ r, (q.ready e).result = .ok r ∧ r.rootElements = [] := by
  obtain ⟨report, hrun, hnone⟩ := Strategy.result_run_preparing q.settings hdata
    (fun t ht => Ty.element?_eq_some.mpr (h t ht))
  exact ⟨report.expr, result_ready_of_run hrun, hnone⟩

/-- The value of a tree is the one that the backend gives to what it is handed. -/
theorem result_value (h : (q.ready e).result = .ok r) :
    (q.value e).result = (q.backend.value r).result := by
  rw [value, Run.result_bind, h]
  rfl

/-- The rows of a tree are those that the backend gives to what it is handed. -/
theorem result_rows (h : (q.ready e).result = .ok r) :
    (q.rows e).result = (q.backend.rows r).result := by
  rw [rows, Run.result_bind, h]
  rfl

end Ready

/-- The trees that running a query is about: for the number of elements, whether there is one,
    the first one, and all of them. -/
def terminals (q : Query) : List Expr :=
  [q.expr.counted, q.expr.nonempty, q.expr.firstOf, q.expr]

/-- Running a query asks for no further roots. -/
theorem rootElements_terminal {q : Query} {e : Expr} (h : e ∈ q.terminals) :
    e.rootElements = q.expr.rootElements := by
  have hcall (name : String) (t : Ty) :
      (Expr.callNamed name [q.expr] t).rootElements = q.expr.rootElements := by
    rw [Expr.callNamed, Expr.rootElements_call, List.flatMap_singleton]
  simp only [terminals, List.mem_cons, List.not_mem_nil, or_false] at h
  rcases h with rfl | rfl | rfl | rfl
  · exact hcall _ _
  · exact hcall _ _
  · exact hcall _ _
  · rfl

/-- **Every reachable query** over a sequence without roots is a sequence itself, with roots that
    are all over the elements of the data.  So whatever it is run for, and every scalar expression
    that it accepts, is made ready without a fault, however often the rules run, and the backend
    is handed a tree without roots. -/
theorem ready_of_reachable {b : Backend} {q : Query} (hseq : b.data.ty.isSeq = true)
    (hdata : b.data.rootElements = []) (h : Reachable b q) :
    (q.expr.ty.isSeq = true ∧ q.expr.rootElements ≠ []
        ∧ ∀ t ∈ q.expr.rootElements, b.data.ty = .seq t)
      ∧ ∀ (s : ErasureSettings) (e : Expr), e ∈ q.terminals ∨ q.requireRoots e = .ok () →
        ∃ r, ((q.withSettings s).ready e).result = .ok r ∧ r.rootElements = []
          ∧ ((q.withSettings s).value e).result = (b.value r).result
          ∧ ((q.withSettings s).rows e).result = (b.rows r).result := by
  have hrooted := h.rooted hseq
  obtain ⟨rfl, hexpr, hsome, hover⟩ := hrooted
  refine ⟨⟨hexpr, hsome, hover⟩, fun s e he => ?_⟩
  have hroots : ∀ t ∈ e.rootElements, q.backend.data.ty = .seq t := by
    rcases he with hterminal | haccepted
    · rw [rootElements_terminal hterminal]
      exact hover
    · exact (h.rooted hseq).of_requireRoots haccepted
  obtain ⟨r, hready, hnone⟩ := result_ready (q := q.withSettings s) hdata hroots
  exact ⟨r, hready, hnone, result_value hready, result_rows hready⟩

end Query

namespace Samples

/-- Three people, the last of whom has neither a name nor a flag, delivered two at a time. -/
def directory : Memory where
  table := ⟨"people",
    [row (some "Ann") (some true) (some true), row (some " Bo") (some true) none,
      row none none none]⟩
  element := personTy
  settings := { batchSize := 2 }

/-- `p => p?.Flag && any(root)`, which asks for the data once more. -/
def flaggedInCompany : Expr :=
  condition (flagGuard.combine .and (Expr.root personTy).nonempty)

end Samples

/-- A filter whose predicate has a root of its own: the number of elements is made ready in
    three passes, and without a root. -/
theorem Query.ready_of_reachable_twoRoots :
    ∃ q, (Query.ofBackend Samples.directory.backend).call (.filter Samples.flaggedInCompany) = .ok q
      ∧ q.expr.rootElements = [Samples.personTy, Samples.personTy]
      ∧ ∃ r, ((q.withSettings { maxPasses := 3 }).ready q.expr.counted).result = .ok r
        ∧ r.rootElements = [] := by
  refine ⟨_, rfl, rfl, ?_⟩
  obtain ⟨_, hready⟩ := Query.ready_of_reachable (b := Samples.directory.backend) rfl rfl
    (.call (c := .filter Samples.flaggedInCompany) .ofBackend rfl)
  obtain ⟨r, hok, hnone, _, _⟩ := hready { maxPasses := 3 } _ (.inl List.mem_cons_self)
  exact ⟨r, hok, hnone⟩

end GuardErasure
