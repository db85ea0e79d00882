import GuardErasure.Proofs.Guard.Alike
import GuardErasure.Proofs.Guard.Residue
import GuardErasure.Proofs.Rules.Preparing

namespace GuardErasure

/-!
# Passes up to a fixpoint

The strategy that does nothing but remove guards runs until a pass finds none.  A pass may make a
guard of a choice that was none, so that one pass is not always enough.  But with every guard the
tree gets smaller, and so there is a bound on the number of passes.

* `Rule.isGuard_shapeOf` — the guards that the settings ask to remove;
* `Strategy.Descends`, `Strategy.result_passes_of_descends` — passes that go down a measure
  whenever they change something come to an end, with a pass that changes nothing;
* `Strategy.erasing`, `Strategy.result_pass_erasing` — the strategy, and one pass of it;
* `Strategy.run_erasing_fixpoint` — the whole run: how many passes it makes, and what it leaves.
-/

/-- **The guards that the settings ask to remove** are those of the shapes that they name. -/
theorem Rule.isGuard_shapeOf (s : ErasureSettings) (n : Expr) :
    (shapeOf s).isGuard n
      = (s.memberGuards && Shape.member.isGuard n || s.callGuards && Shape.method.isGuard n) := by
  -- a shape that is off matches nothing, and one that is on what it matches anyway
  have hmethod : (Shape.either .off (.on .method)).isGuard n = Shape.method.isGuard n :=
    Shape.isGuard_congr (fun _ _ => Option.none_or) n
  have hmember : (Shape.either (.on .member) .off).isGuard n = Shape.member.isGuard n := by
    refine Shape.isGuard_congr (fun _ _ => ?_) n
    exact Option.or_none
  have hboth : (Shape.either (.on .member) (.on .method)).isGuard n
      = (Shape.member.isGuard n || Shape.method.isGuard n) :=
    (Shape.isGuard_congr (fun _ _ => rfl) n).trans (Shape.isGuard_both n)
  rw [shapeOf]
  cases s.memberGuards <;> cases s.callGuards
  · exact Shape.isGuard_either_off n
  · exact hmethod
  · exact hmember.trans (Bool.or_false _).symm
  · exact hboth

namespace Strategy

/-! ### Passes that descend -/

/-- Every pass succeeds, counts itself, and goes down a measure if it changes something. -/
def Descends (p : Strategy) (μ : Expr → Nat) : Prop :=
  ∀ r : Report, ∃ changed r', (p.pass r).result = .ok (changed, r') ∧ r'.passes = r.passes + 1
    ∧ (changed = true → μ r'.expr < μ r.expr)

/-- **Passes that descend come to an end**, if there are enough of them: the last one changes
    nothing, and there are at most as many before it as the measure allows. -/
theorem result_passes_of_descends {p : Strategy} {μ : Expr → Nat} (h : p.Descends μ) (n : Nat)
    {r : Report} (hn : μ r.expr < n) :
    ∃ last r', (p.passes n r).result = .ok r' ∧ (p.pass last).result = .ok (false, r')
      ∧ r'.passes ≤ r.passes + (μ r.expr + 1) := by
  induction n generalizing r with
  | zero => exact absurd hn (Nat.not_lt_zero _)
  | succ n ih =>
    obtain ⟨changed, r₁, hpass, hcount, hdown⟩ := h r
    rw [result_passes_succ hpass]
    cases changed with
    | false =>
      refine ⟨r, r₁, rfl, hpass, ?_⟩
      omega
    | true =>
      have hlt : μ r₁.expr < μ r.expr := hdown rfl
      obtain ⟨last, r', hrun, hlast, hle⟩ := ih (r := r₁) (by omega)
      refine ⟨last, r', hrun, hlast, ?_⟩
      omega

/-! ### The strategy that removes guards -/

/-- The strategy that does nothing but remove the guards that the settings ask for. -/
def erasing (s : ErasureSettings) : Strategy := { rules := [.guardRemoval s], settings := s }

section Erasing

variable (s : ErasureSettings)

/-- **One pass** erases, and reports a change if it has removed a guard. -/
theorem result_pass_erasing (r : Report) :
    ((erasing s).pass r).result
      = .ok (decide (0 < (Rule.shapeOf s).removals r.expr),
        noted s.keepTrace (.guardRemoval s) { r with passes := r.passes + 1 }
          ⟨(Rule.shapeOf s).erase r.expr, decide (0 < (Rule.shapeOf s).removals r.expr)⟩) := by
  have hrule := Rule.result_guardRemoval s r.expr
  refine (result_applyAll_cons (r := { r with passes := r.passes + 1 }) hrule).trans ?_
  show Except.ok (_ || false, _) = _
  rw [Bool.or_false]
  rfl

/-- With every guard five nodes go, so that a tree has room for only so many. -/
theorem descends_erasing : (erasing s).Descends fun e => (e.size - 1) / 5 := by
  intro r
  refine ⟨_, _, result_pass_erasing s r, passes_noted _ _ _ _, fun hchanged => ?_⟩
  have hremoved : 0 < (Rule.shapeOf s).removals r.expr := of_decide_eq_true hchanged
  have hsize : ((Rule.shapeOf s).erase r.expr).size + 5 * (Rule.shapeOf s).removals r.expr
      ≤ r.expr.size := Shape.size_swept_add_removed_le _ false r.expr
  have hpos : 0 < ((Rule.shapeOf s).erase r.expr).size := Expr.size_pos _
  rw [expr_noted]
  dsimp only
  omega

/-- A pass that changes nothing has met a tree without guards, and leaves it. -/
theorem removals_of_pass_erasing {s : ErasureSettings} {r r' : Report}
    (h : ((erasing s).pass r).result = .ok (false, r')) :
    (Rule.shapeOf s).removals r'.expr = 0 := by
  rw [result_pass_erasing, Except.ok.injEq, Prod.mk.injEq] at h
  obtain ⟨hnone, rfl⟩ := h
  have hzero : (Rule.shapeOf s).removals r.expr = 0 :=
    Nat.eq_zero_of_not_pos (of_decide_eq_false hnone)
  rw [expr_noted, (Shape.erase_eq_self_iff _ _).mpr hzero]
  exact hzero

/-- A tree without guards takes one pass, which changes nothing. -/
theorem result_run_erasing_of_removals {e : Expr} (h : (Rule.shapeOf s).removals e = 0) :
    ((erasing s).run e).result = .ok { expr := e, passes := 1 } := by
  have hpass := result_pass_erasing s { expr := e }
  rw [(Shape.erase_eq_self_iff _ e).mpr h, h] at hpass
  obtain ⟨n, hrun⟩ := run_eq_passes_succ (erasing s)
  rw [hrun, result_passes_succ hpass]
  rfl

/-- **Removing guards comes to an end.**  If a tree may be gone through as often as it has nodes,
    the strategy gives a report: it has made at most one pass for every five nodes below the top
    and one more, it has left no guard of a shape that the settings ask to remove, and gone
    through once more, the tree that it has left stays as it is, without a change being
    reported. -/
theorem run_erasing_fixpoint {e : Expr} (hpasses : e.size ≤ s.maxPasses.toNat) :
    ∃ r, ((erasing s).run e).result = .ok r
      ∧ r.passes ≤ (e.size - 1) / 5 + 1
      ∧ (∀ n ∈ r.expr.nodes, (s.memberGuards = true → Shape.member.isGuard n = false)
        ∧ (s.callGuards = true → Shape.method.isGuard n = false))
      ∧ ∃ again, ((erasing s).run r.expr).result = .ok again
        ∧ again.changed = false ∧ again.expr = r.expr := by
  have hpos : 0 < e.size := e.size_pos
  have henough : (e.size - 1) / 5 < max s.maxPasses.toNat 1 := by omega
  obtain ⟨last, r, hrun, hlast, hle⟩ :=
    result_passes_of_descends (descends_erasing s) _ (r := { expr := e }) henough
  have hzero := removals_of_pass_erasing hlast
  refine ⟨r, hrun, by simpa using hle, fun n hn => ?_, _, result_run_erasing_of_removals s hzero,
    rfl, rfl⟩
  have hguard := (Shape.removals_eq_zero_iff _ _).mp hzero n hn
  rw [Rule.isGuard_shapeOf, Bool.or_eq_false_iff, Bool.and_eq_false_imp,
    Bool.and_eq_false_imp] at hguard
  exact hguard

end Erasing

/-- A guard that the first pass uncovers is removed by the second one, and the third pass is the
    last. -/
theorem run_erasing_fixpoint_methodGuardInUse :
    Samples.methodGuardInUse.size ≤ ({ maxPasses := 64 } : ErasureSettings).maxPasses.toNat
      ∧ ∃ r, ((erasing { maxPasses := 64 }).run Samples.methodGuardInUse).result = .ok r
        ∧ r.expr = Samples.trimmedName.invoke "to_lower" [] .string
        ∧ r.passes = 3 ∧ 3 ≤ (Samples.methodGuardInUse.size - 1) / 5 + 1
        ∧ (∀ n ∈ r.expr.nodes, Shape.member.isGuard n = false ∧ Shape.method.isGuard n = false)
        ∧ ∃ again, ((erasing { maxPasses := 64 }).run r.expr).result = .ok again
          ∧ again.changed = false ∧ again.expr = r.expr := by
  have hsize : Samples.methodGuardInUse.size
      ≤ ({ maxPasses := 64 } : ErasureSettings).maxPasses.toNat := by decide
  obtain ⟨r, hrun, hle, hnone, hagain⟩ := run_erasing_fixpoint { maxPasses := 64 } hsize
  cases hrun
  exact ⟨hsize, _, rfl, rfl, rfl, hle, fun n hn => (hnone n hn).imp (· rfl) (· rfl), hagain⟩

end Strategy

end GuardErasure
