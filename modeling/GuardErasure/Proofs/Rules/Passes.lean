import GuardErasure.Rules.Strategy

namespace GuardErasure.Strategy

/-!
# One pass after another

* `result_applyAll_cons`, `result_passes_succ` — what a rule hands on to the next one, and a pass to the
  next one;
* `Retells` — a way to tell the same with other trees, other counts or another record;
* `result_passes_retold` — if every rule tells so, passes do.
-/

theorem expr_noted (keepTrace : Bool) (rule : Rule) (r : Report) (w : Outcome) :
    (noted keepTrace rule r w).expr = w.expr := by
  unfold noted
  split <;> rfl

theorem passes_noted (keepTrace : Bool) (rule : Rule) (r : Report) (w : Outcome) :
    (noted keepTrace rule r w).passes = r.passes := by
  unfold noted
  split <;> rfl

/-- A rule hands what it gives back on to the rules after it. -/
theorem result_applyAll_cons {keepTrace : Bool} {rule : Rule} {rules : List Rule} {r : Report}
    {w : Outcome} (h : (rule.act r.expr).result = .ok w) :
    (applyAll keepTrace (rule :: rules) r).result = do
      let (later, r') ← (applyAll keepTrace rules (noted keepTrace rule r w)).result
      return (w.changed || later, r') := by
  rw [applyAll, Run.result_bind, h]
  obtain ⟨e, changed⟩ := w
  cases changed <;> exact Run.result_bind _ _

/-- After a rule that fails no other one is applied. -/
theorem result_applyAll_of_error {keepTrace : Bool} {rule : Rule} {rules : List Rule} {r : Report}
    {f : Fault} (h : (rule.act r.expr).result = .error f) :
    (applyAll keepTrace (rule :: rules) r).result = .error f := by
  rw [applyAll, Run.result_bind, h]
  rfl

/-- If rules succeed, the first of them does, and so do the others with what it hands on. -/
theorem result_applyAll_cons_eq_ok {keepTrace changed : Bool} {rule : Rule} {rules : List Rule}
    {r r' : Report} (h : (applyAll keepTrace (rule :: rules) r).result = .ok (changed, r')) :
    ∃ w later, (rule.act r.expr).result = .ok w
      ∧ (applyAll keepTrace rules (noted keepTrace rule r w)).result = .ok (later, r')
      ∧ changed = (w.changed || later) := by
  cases hact : (rule.act r.expr).result with
  | error f =>
    rw [result_applyAll_of_error hact] at h
    cases h
  | ok w =>
    rw [result_applyAll_cons hact] at h
    cases hlater : (applyAll keepTrace rules (noted keepTrace rule r w)).result with
    | error f =>
      rw [hlater] at h
      cases h
    | ok q =>
      rw [hlater] at h
      cases h
      exact ⟨w, q.1, rfl, hlater, rfl⟩

theorem result_passes_zero (p : Strategy) (r : Report) : (p.passes 0 r).result = .ok r := rfl

/-- After a pass that changes something come the others. -/
theorem result_passes_succ {p : Strategy} {n : Nat} {r r' : Report} {changed : Bool}
    (h : (p.pass r).result = .ok (changed, r')) :
    (p.passes (n + 1) r).result = if changed then (p.passes n r').result else .ok r' := by
  rw [passes, Run.result_bind, h]
  cases changed <;> rfl

/-- After a pass that fails comes none. -/
theorem result_passes_of_error {p : Strategy} {n : Nat} {r : Report} {f : Fault}
    (h : (p.pass r).result = .error f) : (p.passes (n + 1) r).result = .error f := by
  rw [passes, Run.result_bind, h]
  rfl

/-- If passes succeed, the first of them does, and so do the others if it changes something. -/
theorem result_passes_succ_eq_ok {p : Strategy} {n : Nat} {r r' : Report}
    (h : (p.passes (n + 1) r).result = .ok r') :
    (p.pass r).result = .ok (false, r')
      ∨ ∃ r₁, (p.pass r).result = .ok (true, r₁) ∧ (p.passes n r₁).result = .ok r' := by
  cases hpass : (p.pass r).result with
  | error f =>
    rw [result_passes_of_error hpass] at h
    cases h
  | ok q =>
    obtain ⟨changed, r₁⟩ := q
    rw [result_passes_succ hpass] at h
    cases changed with
    | false =>
      cases h
      exact .inl rfl
    | true => exact .inr ⟨r₁, rfl, h⟩

/-- A run makes one pass at least. -/
theorem run_eq_passes_succ (p : Strategy) : ∃ n, ∀ e, p.run e = p.passes (n + 1) { expr := e } := by
  have hpos : max p.settings.maxPasses.toNat 1 = max p.settings.maxPasses.toNat 1 - 1 + 1 := by omega
  refine ⟨max p.settings.maxPasses.toNat 1 - 1, fun e => ?_⟩
  rw [← hpos]
  rfl

/-! ### The same, told otherwise -/

/-- Two strategies with the same rules tell the same: what the one reports, the other one reports by
    `f`, since what its rules give back is what they give back otherwise, by `g`. -/
structure Retells (p p' : Strategy) (f : Report → Report) (g : Outcome → Outcome) : Prop where
  rules : p'.rules = p.rules
  act : ∀ rule ∈ p.rules, ∀ r, (rule.act (f r).expr).result = (rule.act r.expr).result.map g
  changed : ∀ w, (g w).changed = w.changed
  noted : ∀ rule r w, noted p'.settings.keepTrace rule (f r) (g w)
    = f (noted p.settings.keepTrace rule r w)
  started : ∀ r, { f r with passes := (f r).passes + 1 } = f { r with passes := r.passes + 1 }

section Retold

variable {p p' : Strategy} {f : Report → Report} {g : Outcome → Outcome} (h : p.Retells p' f g)
include h

/-- **Rules in order** tell what each of them tells. -/
theorem result_applyAll_retold {rules : List Rule} (hrules : ∀ rule ∈ rules, rule ∈ p.rules)
    (r : Report) :
    (applyAll p'.settings.keepTrace rules (f r)).result
      = (applyAll p.settings.keepTrace rules r).result.map fun q => (q.1, f q.2) := by
  induction rules generalizing r with
  | nil => rfl
  | cons rule rules ih =>
    obtain ⟨hmem, hrules⟩ := List.forall_mem_cons.mp hrules
    have hrule := h.act rule hmem r
    cases hact : (rule.act r.expr).result with
    | error fault =>
      rw [hact] at hrule
      rw [result_applyAll_of_error hact, result_applyAll_of_error (r := f r) hrule]
      rfl
    | ok w =>
      rw [hact] at hrule
      rw [result_applyAll_cons hact, result_applyAll_cons (r := f r) hrule, h.noted, ih hrules,
        h.changed]
      cases (applyAll p.settings.keepTrace rules (Strategy.noted p.settings.keepTrace rule r w)).result
        <;> rfl

theorem result_pass_retold (r : Report) :
    (p'.pass (f r)).result = (p.pass r).result.map fun q => (q.1, f q.2) := by
  rw [pass, pass, h.started, h.rules]
  exact result_applyAll_retold h (fun _ hmem => hmem) _

/-- **Any number of passes**, by induction on what is left of them. -/
theorem result_passes_retold (n : Nat) (r : Report) :
    (p'.passes n (f r)).result = (p.passes n r).result.map f := by
  induction n generalizing r with
  | zero => rfl
  | succ n ih =>
    have hpass := result_pass_retold h r
    cases hr : (p.pass r).result with
    | error fault =>
      rw [hr] at hpass
      rw [result_passes_of_error hr, result_passes_of_error hpass]
      rfl
    | ok q =>
      obtain ⟨changed, r'⟩ := q
      rw [hr] at hpass
      rw [result_passes_succ hr, result_passes_succ hpass]
      cases changed with
      | false => rfl
      | true => exact ih r'

end Retold

end GuardErasure.Strategy
