import GuardErasure.Proofs.Guard.Residue
import GuardErasure.Proofs.Rules.Preparing

namespace GuardErasure

/-!
# Budgets of passes

A run may be stopped when its passes are used up, and another one may go on with what it has left.

* `Report.andThen` — the report of two runs, one after the other, and
  `Strategy.result_passes_andThen`: a run does not mind what was reported before it;
* `Rule.Steady`, `Rule.Leaves` — rules that tell of every change, and trees at which a rule has nothing
  to do;
* `Strategy.result_pass_unchanged_iff` — a pass of steady rules reports no change exactly if no rule
  has anything to do;
* `Strategy.result_passes_add`, `Strategy.leaves_of_passes_lt` — any number of passes in two parts, and
  what a run that was not stopped has left;
* `Strategy.run_budgets_add` — so budgets of passes add up.
-/

/-- The application, told after so many passes. -/
def Application.later (passes : Nat) (a : Application) : Application :=
  { a with pass := passes + a.pass }

namespace Report

/-- The report of a run, told after what another one has reported before. -/
def andThen (r s : Report) : Report where
  expr := s.expr
  passes := r.passes + s.passes
  applied := r.applied + s.applied
  trace := r.trace ++ s.trace.map (·.later r.passes)

/-- A run that has not begun adds nothing to the report. -/
theorem andThen_start (r : Report) : r.andThen { expr := r.expr } = r := by
  obtain ⟨e, passes, applied, trace⟩ := r
  show Report.mk e passes applied (trace ++ []) = _
  rw [List.append_nil]

/-- The tree, and how many applications led to it. -/
def effect (r : Report) : Expr × Nat := (r.expr, r.applied)

end Report

namespace Rule

/-- A steady rule gives a tree back as it was unless it reports a change. -/
def Steady (rule : Rule) : Prop :=
  ∀ e w, (rule.act e).result = .ok w → w.changed = false → w.expr = e

/-- The rule leaves the tree as it is, and says so. -/
def Leaves (rule : Rule) (e : Expr) : Prop := (rule.act e).result = .ok ⟨e, false⟩

/-- Putting a source in the place of the roots is steady. -/
theorem steady_rootSplice (source : Expr) : (rootSplice source).Steady := by
  intro e w hw hunchanged
  rw [rootSplice_act] at hw
  split at hw
  · cases hw
  · cases hw
    by_cases hnone : e.rootElements.isEmpty = true
    · rw [if_pos hnone]
    · rw [if_neg hnone] at hunchanged
      cases hunchanged

/-- Removing guards is steady. -/
theorem steady_guardRemoval (s : ErasureSettings) : (guardRemoval s).Steady := by
  intro e w hw hunchanged
  rw [result_guardRemoval] at hw
  cases hw
  have hnone : (shapeOf s).removals e = 0 :=
    Nat.eq_zero_of_not_pos (of_decide_eq_false hunchanged)
  exact (Shape.erase_eq_self_iff _ e).mpr hnone

end Rule

namespace Strategy

/-- The strategy with another number of passes allowed. -/
def limited (p : Strategy) (passes : UInt64) : Strategy :=
  { p with settings := { p.settings with maxPasses := passes } }

variable {p : Strategy}

/-! ### What was reported before -/

theorem retells_andThen (before : Report) : p.Retells p before.andThen id where
  rules := rfl
  act rule _ r := by
    show (rule.act r.expr).result = _
    cases (rule.act r.expr).result <;> rfl
  changed _ := rfl
  noted rule r w := by
    obtain ⟨e, changed⟩ := w
    cases changed with
    | false => rfl
    | true =>
      cases hkeep : p.settings.keepTrace with
      | false => rfl
      | true =>
        simp only [noted, Report.andThen, if_true, List.map_append, id, Nat.add_assoc,
          ← List.append_assoc]
        rfl
  started r := by
    simp only [Report.andThen, Nat.add_assoc]

/-- **Passes do not mind** what was reported before them. -/
theorem result_passes_andThen (n : Nat) (r : Report) :
    (p.passes n r).result = (p.passes n { expr := r.expr }).result.map r.andThen := by
  have hretold := result_passes_retold (retells_andThen (p := p) r) n { expr := r.expr }
  rwa [Report.andThen_start] at hretold

/-- Nor do they mind how many of them were allowed. -/
theorem passes_limited (limit : UInt64) (n : Nat) :
    (p.limited limit).passes n = p.passes n := by
  induction n with
  | zero => rfl
  | succ n ih =>
    funext r
    rw [passes, passes, ih]
    rfl

/-- A run makes as many passes as it is allowed, and one at least. -/
theorem run_limited {limit : UInt64} (hlimit : 1 ≤ limit.toNat) (e : Expr) :
    (p.limited limit).run e = p.passes limit.toNat { expr := e } := by
  show (p.limited limit).passes (max limit.toNat 1) { expr := e } = _
  rw [passes_limited, Nat.max_eq_left hlimit]

/-! ### Passes without a change -/

/-- Rules that leave a tree leave it one after another. -/
theorem result_applyAll_of_leaves {keepTrace : Bool} {rules : List Rule} {r : Report}
    (h : ∀ rule ∈ rules, rule.Leaves r.expr) :
    (applyAll keepTrace rules r).result = .ok (false, r) := by
  induction rules with
  | nil => rfl
  | cons rule rules ih =>
    obtain ⟨hrule, hrules⟩ := List.forall_mem_cons.mp h
    have hnoted : noted keepTrace rule r ⟨r.expr, false⟩ = r := rfl
    rw [result_applyAll_cons hrule, hnoted, ih hrules]
    rfl

/-- If steady rules report no change, each of them was given the same tree, and leaves it. -/
theorem leaves_of_result_applyAll {keepTrace : Bool} {rules : List Rule} {r r' : Report}
    (hsteady : ∀ rule ∈ rules, rule.Steady)
    (h : (applyAll keepTrace rules r).result = .ok (false, r')) :
    r' = r ∧ ∀ rule ∈ rules, rule.Leaves r.expr := by
  induction rules generalizing r with
  | nil =>
    cases h
    exact ⟨rfl, List.forall_mem_nil _⟩
  | cons rule rules ih =>
    obtain ⟨hrule, hrules⟩ := List.forall_mem_cons.mp hsteady
    obtain ⟨w, later, hact, hlater, hnone⟩ := result_applyAll_cons_eq_ok h
    obtain ⟨hunchanged, rfl⟩ := Bool.or_eq_false_iff.mp hnone.symm
    -- the rule has handed the tree on as it was, so that the others tell of the same one
    have hw : w = ⟨r.expr, false⟩ := by
      obtain ⟨e, changed⟩ := w
      have he : e = r.expr := hrule r.expr _ hact hunchanged
      have hc : changed = false := hunchanged
      rw [he, hc]
    subst hw
    obtain ⟨hsame, hleaves⟩ := ih hrules hlater
    exact ⟨hsame, List.forall_mem_cons.mpr ⟨hact, hleaves⟩⟩

/-- **A pass of steady rules** reports no change exactly if no rule has anything to do; then it counts
    itself, and that is all. -/
theorem result_pass_unchanged_iff (hsteady : ∀ rule ∈ p.rules, rule.Steady) {r r' : Report} :
    (p.pass r).result = .ok (false, r')
      ↔ r' = { r with passes := r.passes + 1 } ∧ ∀ rule ∈ p.rules, rule.Leaves r.expr := by
  constructor
  · intro h
    exact leaves_of_result_applyAll (r := { r with passes := r.passes + 1 }) hsteady h
  · rintro ⟨rfl, hleaves⟩
    exact result_applyAll_of_leaves (r := { r with passes := r.passes + 1 }) hleaves

/-- Rules do not count passes. -/
theorem passes_of_result_applyAll {keepTrace changed : Bool} {rules : List Rule} {r r' : Report}
    (h : (applyAll keepTrace rules r).result = .ok (changed, r')) : r'.passes = r.passes := by
  induction rules generalizing r changed with
  | nil =>
    cases h
    rfl
  | cons rule rules ih =>
    obtain ⟨w, later, -, hlater, -⟩ := result_applyAll_cons_eq_ok h
    rw [ih hlater, passes_noted]

/-! ### Passes in two parts -/

/-- **Passes add up**, in what becomes of the tree and in the number of applications.  The induction is
    on the passes of the first part: if one of them changes nothing, no pass of the second part does. -/
theorem result_passes_add (hsteady : ∀ rule ∈ p.rules, rule.Steady) {n : Nat} (hn : 1 ≤ n) (m : Nat)
    (r : Report) :
    ((p.passes m r).result >>= fun a => (p.passes n a).result.map Report.effect)
      = (p.passes (m + n) r).result.map Report.effect := by
  induction m generalizing r with
  | zero =>
    rw [Nat.zero_add]
    rfl
  | succ m ih =>
    rw [Nat.succ_add]
    cases hpass : (p.pass r).result with
    | error fault =>
      rw [result_passes_of_error hpass, result_passes_of_error hpass]
      rfl
    | ok q =>
      obtain ⟨changed, r₁⟩ := q
      rw [result_passes_succ hpass, result_passes_succ hpass]
      cases changed with
      | true => exact ih r₁
      | false =>
        obtain ⟨rfl, hleaves⟩ := (result_pass_unchanged_iff hsteady).mp hpass
        obtain ⟨n, rfl⟩ : ∃ k, n = k + 1 := ⟨n - 1, by omega⟩
        have hagain := (result_pass_unchanged_iff hsteady
          (r := { r with passes := r.passes + 1 })).mpr ⟨rfl, hleaves⟩
        show (p.passes (n + 1) _).result.map Report.effect = _
        rw [result_passes_succ hagain]
        rfl

/-- **A run that was not stopped** has left a tree at which no rule has anything to do. -/
theorem leaves_of_passes_lt (hsteady : ∀ rule ∈ p.rules, rule.Steady) {n : Nat} {r r' : Report}
    (h : (p.passes n r).result = .ok r') (hlt : r'.passes < r.passes + n) :
    ∀ rule ∈ p.rules, rule.Leaves r'.expr := by
  induction n generalizing r with
  | zero =>
    cases h
    omega
  | succ n ih =>
    obtain hpass | ⟨r₁, hpass, hpasses⟩ := result_passes_succ_eq_ok h
    · obtain ⟨rfl, hleaves⟩ := (result_pass_unchanged_iff hsteady).mp hpass
      exact hleaves
    · have hcount : r₁.passes = r.passes + 1 := passes_of_result_applyAll hpass
      exact ih hpasses (by omega)

/-- **Budgets of passes add up.**  For rules that give a tree back as it was unless they report a
    change, a run of at most `m` passes and then one of at most `n` passes over what it has left do what
    one run of at most `m + n` passes does: they leave the same tree after the same number of
    applications, or fail with the same fault.  And if a run stops before its passes are used up, every
    rule leaves its result as it is. -/
theorem run_budgets_add (p : Strategy) (hsteady : ∀ rule ∈ p.rules, rule.Steady) (e : Expr)
    {m n k : UInt64} (hm : 1 ≤ m.toNat) (hn : 1 ≤ n.toNat)
    (hk : k.toNat = m.toNat + n.toNat) :
    (do
        let first ← ((p.limited m).run e).result
        let second ← ((p.limited n).run first.expr).result
        return (second.expr, first.applied + second.applied))
      = ((p.limited k).run e).result.map (fun r => (r.expr, r.applied))
    ∧ ∀ r, ((p.limited m).run e).result = .ok r → r.passes < m.toNat →
      ∀ rule ∈ p.rules, (rule.act r.expr).result = .ok ⟨r.expr, false⟩ := by
  constructor
  · have hsum : 1 ≤ k.toNat := by omega
    have hadd := result_passes_add hsteady hn m.toNat { expr := e }
    rw [run_limited hm, run_limited hsum, hk]
    refine Eq.trans ?_ hadd
    refine congrArg ((p.passes m.toNat { expr := e }).result >>= ·) (funext fun first => ?_)
    -- the second run begins a report of its own
    rw [run_limited hn, result_passes_andThen n.toNat first]
    cases (p.passes n.toNat { expr := first.expr }).result <;> rfl
  · intro r hrun hlt
    rw [run_limited hm] at hrun
    exact leaves_of_passes_lt hsteady hrun (by simpa using hlt)

end Strategy

namespace Samples

/-- The preparation of queries for the people. -/
def forPeople : Strategy := .preparing (.source "people" personTy) {}

/-- Those in a query of whom a text is `"k"`. -/
def withText (query text : Expr) : Expr :=
  .callNamed "where" [query, condition (text.combine .equal (.ofValue (.string "k")))] (.seq personTy)

/-- A query with a guard in which another one is. -/
def unprepared : Expr := withText (.root personTy) methodGuardInUse

/-- What the preparation makes of it. -/
def prepared : Expr :=
  withText (.source "people" personTy) (trimmedName.invoke "to_lower" [] .string)

end Samples

/-- The first pass puts the source in place and removes a guard, and the second pass removes the guard
    that is left then.  The third pass is the last, if it is not stopped before. -/
theorem Strategy.run_budgets_add_unprepared :
    (∀ rule ∈ Samples.forPeople.rules, rule.Steady)
      ∧ (do
          let first ← ((Samples.forPeople.limited 1).run Samples.unprepared).result
          let second ← ((Samples.forPeople.limited 2).run first.expr).result
          return (second.expr, first.applied + second.applied)) = .ok (Samples.prepared, 3)
      ∧ ∃ r, ((Samples.forPeople.limited 4).run Samples.unprepared).result = .ok r
        ∧ r.passes = 3 ∧ r.expr = Samples.prepared
        ∧ ∀ rule ∈ Samples.forPeople.rules, (rule.act r.expr).result = .ok ⟨r.expr, false⟩ := by
  have hsteady : ∀ rule ∈ Samples.forPeople.rules, rule.Steady := by
    intro rule hrule
    simp only [Samples.forPeople, preparing, List.mem_cons, List.not_mem_nil, or_false] at hrule
    obtain rfl | rfl := hrule
    · exact Rule.steady_rootSplice _
    · exact Rule.steady_guardRemoval _
  have hinTwo := (run_budgets_add Samples.forPeople hsteady Samples.unprepared
    (m := 1) (n := 2) (k := 3) (by decide) (by decide) (by decide)).1
  have hunstopped := (run_budgets_add Samples.forPeople hsteady Samples.unprepared
    (m := 4) (n := 1) (k := 5) (by decide) (by decide) (by decide)).2
  exact ⟨hsteady, hinTwo.trans rfl, _, rfl, rfl, rfl, hunstopped _ rfl (by decide)⟩

end GuardErasure
