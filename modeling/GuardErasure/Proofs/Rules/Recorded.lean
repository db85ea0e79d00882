import GuardErasure.Proofs.Rules.Budget

namespace GuardErasure

/-!
# The record of a run

A run may keep a record of the applications that changed the tree.  It does nothing else then that it
would not do anyway, and the record tells how the tree came about.

* `Application.Leads` — applications of which each starts from the tree that the one before has left;
* `Application.Fill` — applications in passes one after another, of which only the last may be without
  any;
* `Report.Records` — what is recorded between two reports, `Report.Records.noted` for a single rule;
* `Strategy.records_of_result_applyAll`, `Strategy.records_of_result_passes` — what one pass records, and
  any number of passes;
* `Strategy.run_recording` — the whole run, with a record and without.
-/

namespace Application

/-- The applications lead from one tree to another: each of them starts from what the one before has
    left. -/
def Leads : Expr → List Application → Expr → Prop
  | e, [], e' => e' = e
  | e, a :: as, e' => a.before = e ∧ Leads a.after as e'

theorem Leads.append {e e₁ e₂ : Expr} {as bs : List Application} (h : Leads e as e₁)
    (h' : Leads e₁ bs e₂) : Leads e (as ++ bs) e₂ := by
  induction as generalizing e with
  | nil =>
    obtain rfl : e₁ = e := h
    exact h'
  | cons a as ih => exact ⟨h.1, ih h.2⟩

/-- The applications happened in the passes after the first `done` ones, up to the pass `last`: in the
    order of the passes, and in every pass before the last. -/
structure Fill (done last : Nat) (as : List Application) : Prop where
  le : done ≤ last
  ordered : (as.map (·.pass)).Pairwise (· ≤ ·)
  within : ∀ a ∈ as, done < a.pass ∧ a.pass ≤ last
  busy : ∀ k, done < k → k < last → ∃ a ∈ as, a.pass = k

namespace Fill

variable {done last : Nat} {as bs : List Application}

/-- No application happens in no pass. -/
theorem none (done : Nat) : Fill done done [] where
  le := Nat.le_refl _
  ordered := .nil
  within := List.forall_mem_nil _
  busy k hk hlast := by omega

/-- Applications of one pass. -/
theorem one (h : ∀ a ∈ as, a.pass = done + 1) : Fill done (done + 1) as where
  le := Nat.le_succ _
  ordered := by
    refine List.pairwise_map.mpr (List.pairwise_of_forall_mem_list fun a ha b hb => ?_)
    exact Nat.le_of_eq ((h a ha).trans (h b hb).symm)
  within a ha := by
    rw [h a ha]
    omega
  busy k hk hlast := by omega

/-- After a pass in which something happened come the others. -/
theorem cons (hne : as ≠ []) (h : ∀ a ∈ as, a.pass = done + 1) (hbs : Fill (done + 1) last bs) :
    Fill done last (as ++ bs) where
  le := Nat.le_of_succ_le hbs.le
  ordered := by
    rw [List.map_append, List.pairwise_append]
    refine ⟨(one h).ordered, hbs.ordered, ?_⟩
    intro i hi j hj
    obtain ⟨a, ha, rfl⟩ := List.mem_map.mp hi
    obtain ⟨b, hb, rfl⟩ := List.mem_map.mp hj
    have hlt := (hbs.within b hb).1
    have heq := h a ha
    omega
  within := by
    rw [List.forall_mem_append]
    refine ⟨fun a ha => ?_, fun b hb => ?_⟩
    · have heq := h a ha
      have hle := hbs.le
      omega
    · have hwithin := hbs.within b hb
      omega
  busy k hk hlast := by
    by_cases hfirst : k = done + 1
    · obtain ⟨a, ha⟩ := List.exists_mem_of_ne_nil as hne
      exact ⟨a, List.mem_append_left _ ha, (h a ha).trans hfirst.symm⟩
    · obtain ⟨b, hb, hpass⟩ := hbs.busy k (by omega) hlast
      exact ⟨b, List.mem_append_right _ hb, hpass⟩

end Fill

end Application

namespace Report

/-- Between two reports these applications were recorded and counted, and they lead from the tree of the
    one to that of the other. -/
structure Records (r : Report) (as : List Application) (r' : Report) : Prop where
  trace : r'.trace = r.trace ++ as
  applied : r'.applied = r.applied + as.length
  leads : Application.Leads r.expr as r'.expr

namespace Records

variable {r r₁ r₂ : Report} {as bs : List Application}

protected theorem refl (r : Report) : r.Records [] r := ⟨(List.append_nil _).symm, rfl, rfl⟩

protected theorem trans (h : r.Records as r₁) (h' : r₁.Records bs r₂) : r.Records (as ++ bs) r₂ where
  trace := by rw [h'.trace, h.trace, List.append_assoc]
  applied := by
    rw [h'.applied, h.applied, List.length_append]
    omega
  leads := h.leads.append h'.leads

/-- **One rule** that is steady has its application recorded, if it has changed the tree. -/
theorem noted {rule : Rule} (hsteady : rule.Steady) {w : Outcome}
    (hact : (rule.act r.expr).result = .ok w) :
    r.Records (if w.changed then [⟨rule.name, r.passes, r.expr, w.expr⟩] else [])
      (Strategy.noted true rule r w) := by
  obtain ⟨e, changed⟩ := w
  cases changed with
  | true => exact ⟨rfl, rfl, rfl, rfl⟩
  | false =>
    -- the tree that the report goes on with is the one that the rule was given
    have hsame : e = r.expr := hsteady r.expr _ hact rfl
    subst hsame
    exact Records.refl r

end Records

end Report

namespace Strategy

variable {p : Strategy}

/-- **Rules in order** record applications of the pass that they are in, one at least if they report a
    change. -/
theorem records_of_result_applyAll {rules : List Rule} {r r' : Report} {changed : Bool}
    (hsteady : ∀ rule ∈ rules, rule.Steady)
    (h : (applyAll true rules r).result = .ok (changed, r')) :
    ∃ as, r.Records as r' ∧ (∀ a ∈ as, a.pass = r.passes) ∧ (changed = true → as ≠ []) := by
  induction rules generalizing r changed with
  | nil =>
    cases h
    exact ⟨[], .refl _, List.forall_mem_nil _, fun hfalse => nomatch hfalse⟩
  | cons rule rules ih =>
    obtain ⟨hrule, hrules⟩ := List.forall_mem_cons.mp hsteady
    obtain ⟨w, later, hact, hlater, rfl⟩ := result_applyAll_cons_eq_ok h
    obtain ⟨bs, hrecords, hpasses, hne⟩ := ih hrules hlater
    rw [passes_noted] at hpasses
    refine ⟨_, (Report.Records.noted hrule hact).trans hrecords, ?_, fun hchanged => ?_⟩
    · refine List.forall_mem_append.mpr ⟨?_, hpasses⟩
      split
      · exact List.forall_mem_singleton.mpr rfl
      · exact List.forall_mem_nil _
    · rcases Bool.or_eq_true_iff.mp hchanged with hfirst | hlast
      · rw [if_pos hfirst]
        exact List.cons_ne_nil _ _
      · exact List.append_ne_nil_of_right_ne_nil _ (hne hlast)

/-- **Any number of passes** record applications that fill them, by induction on what is left of the
    passes. -/
theorem records_of_result_passes (hkeep : p.settings.keepTrace = true)
    (hsteady : ∀ rule ∈ p.rules, rule.Steady) {n : Nat} {r r' : Report}
    (h : (p.passes n r).result = .ok r') :
    ∃ as, r.Records as r' ∧ Application.Fill r.passes r'.passes as := by
  -- a pass is counted before its rules are applied, so that they record it under its own number
  have hone {r r' : Report} {changed : Bool} (h : (p.pass r).result = .ok (changed, r')) :
      r'.passes = r.passes + 1
        ∧ ∃ as, r.Records as r' ∧ (∀ a ∈ as, a.pass = r.passes + 1) ∧ (changed = true → as ≠ []) := by
    have hcount := passes_of_result_applyAll h
    rw [pass, hkeep] at h
    obtain ⟨as, hrecords, hall⟩ := records_of_result_applyAll hsteady h
    exact ⟨hcount, as, ⟨hrecords.trace, hrecords.applied, hrecords.leads⟩, hall⟩
  induction n generalizing r with
  | zero =>
    cases h
    exact ⟨[], .refl _, .none _⟩
  | succ n ih =>
    obtain hpass | ⟨r₁, hpass, hpasses⟩ := result_passes_succ_eq_ok h
    · obtain ⟨hcount, as, hrecords, hall, -⟩ := hone hpass
      exact ⟨as, hrecords, hcount ▸ .one hall⟩
    · obtain ⟨hcount, as, hrecords, hall, hne⟩ := hone hpass
      obtain ⟨bs, hrecords', hfill⟩ := ih hpasses
      rw [hcount] at hfill
      exact ⟨as ++ bs, hrecords.trans hrecords', hfill.cons (hne rfl) hall⟩

/-! ### With a record and without -/

/-- The strategy that keeps a record, or keeps none. -/
def recording (p : Strategy) (keepTrace : Bool) : Strategy :=
  { p with settings := { p.settings with keepTrace } }

/-- What a run reports without a record is what it reports with one, but for the record. -/
theorem retells_recording (p : Strategy) :
    (p.recording true).Retells (p.recording false) (fun r => { r with trace := [] }) id where
  rules := rfl
  act rule _ r := by
    show (rule.act r.expr).result = _
    cases (rule.act r.expr).result <;> rfl
  changed _ := rfl
  noted rule r w := by
    obtain ⟨e, changed⟩ := w
    cases changed <;> rfl
  started _ := rfl

/-- **A record only observes, and is a chain.**  A run that keeps a record leaves the same tree, after
    the same number of passes and of applications, as the run that keeps none, or fails with the same
    fault.  Let its rules give a tree back as it was unless they report a change.  Then there is an entry
    for every application that was counted; the first entry starts from the tree that the run was given,
    each other one from what the entry before has left, and the last one leaves the tree that the run
    leaves; and the entries are in the order of the passes, with one at least for every pass before the
    last. -/
theorem run_recording (p : Strategy) (hsteady : ∀ rule ∈ p.rules, rule.Steady) (e : Expr) :
    ((p.recording false).run e).result
        = ((p.recording true).run e).result.map (fun r => { r with trace := [] })
      ∧ ∀ r, ((p.recording true).run e).result = .ok r →
        r.trace.length = r.applied
          ∧ Application.Leads e r.trace r.expr
          ∧ (r.trace.map (·.pass)).Pairwise (· ≤ ·)
          ∧ (∀ a ∈ r.trace, 1 ≤ a.pass ∧ a.pass ≤ r.passes)
          ∧ ∀ k, 1 ≤ k → k < r.passes → ∃ a ∈ r.trace, a.pass = k := by
  constructor
  · exact result_passes_retold p.retells_recording _ { expr := e }
  · intro r hrun
    obtain ⟨as, hrecords, hfill⟩ := records_of_result_passes (p := p.recording true) rfl hsteady hrun
    -- the run has begun with nothing recorded and nothing counted
    obtain rfl : r.trace = as := hrecords.trace
    have hcount : r.applied = 0 + r.trace.length := hrecords.applied
    refine ⟨?_, hrecords.leads, hfill.ordered, hfill.within, hfill.busy⟩
    omega

/-- Both rules of the preparation are steady. -/
theorem steady_preparing (source : Expr) (s : ErasureSettings) :
    ∀ rule ∈ (preparing source s).rules, rule.Steady :=
  List.forall_mem_cons.mpr
    ⟨Rule.steady_rootSplice source, List.forall_mem_singleton.mpr (Rule.steady_guardRemoval s)⟩

end Strategy

/-- Both rules change the tree in the first pass, one of them does in the second, and the third pass has
    no entry. -/
theorem Strategy.run_recording_unprepared :
    (∀ rule ∈ (Samples.forPeople.limited 4).rules, rule.Steady)
      ∧ ∃ r, (((Samples.forPeople.limited 4).recording true).run Samples.unprepared).result = .ok r
        ∧ (((Samples.forPeople.limited 4).recording false).run Samples.unprepared).result
          = .ok { expr := Samples.prepared, passes := 3, applied := 3 }
        ∧ Application.Leads Samples.unprepared r.trace Samples.prepared
        ∧ r.trace.map (·.pass) = [1, 1, 2]
        ∧ (∀ k, 1 ≤ k → k < 3 → ∃ a ∈ r.trace, a.pass = k) := by
  have hsteady : ∀ rule ∈ (Samples.forPeople.limited 4).rules, rule.Steady := steady_preparing _ _
  obtain ⟨hsame, hrecord⟩ := run_recording (Samples.forPeople.limited 4) hsteady Samples.unprepared
  obtain ⟨-, hleads, -, -, hbusy⟩ := hrecord _ rfl
  exact ⟨hsteady, _, rfl, hsame.trans rfl, hleads, rfl, hbusy⟩

end GuardErasure
