import GuardErasure.Proofs.Guard.Kept
import GuardErasure.Rules.Basic
import GuardErasure.Samples

namespace GuardErasure

/-!
# The effect of a pass

* `Shape.removals_eq_zero_iff`, `Shape.erase_eq_self_iff` — a pass does nothing exactly if there is
  no guard in the tree, and exactly if it counts none;
* `Rule.result_guardRemoval` — what the rule that removes guards gives back, whatever the
  settings: its trust in the count is justified;
* `Eraser.erase_effect` — the effect of a pass on the tree, on the running count, and on the
  answer of the rule.
-/

namespace Shape

variable {s : Shape}

/-- Guards are choices, so that among all nodes only choices need be looked at. -/
theorem forall_choices_isGuard_iff {e : Expr} :
    (∀ n ∈ e.choices, s.isGuard n = false) ↔ ∀ n ∈ e.nodes, s.isGuard n = false := by
  constructor
  · intro h n hn
    cases n with
    | cond => exact h _ (Expr.mem_choices.mpr ⟨hn, rfl⟩)
    | _ => rfl
  · intro h n hn
    exact h n (Expr.mem_choices.mp hn).1

theorem removals_eq_zero_iff (s : Shape) (e : Expr) :
    s.removals e = 0 ↔ ∀ n ∈ e.nodes, s.isGuard n = false :=
  (removed_eq_zero_iff s e).trans forall_choices_isGuard_iff

/-- The tree stays exactly if no guard is counted. -/
theorem erase_eq_self_iff (s : Shape) (e : Expr) : s.erase e = e ↔ s.removals e = 0 :=
  (swept_eq_self_iff s e).trans (removed_eq_zero_iff s e).symm

/-- Without a guard in the tree every node stays. -/
theorem sweep_eq_keep_of_removals {e : Expr} (h : s.removals e = 0) :
    (s.sweep false e).change = .keep := sweep_eq_keep ((removed_eq_zero_iff s e).mp h)

/-- Where nothing is to be removed, nothing is a guard. -/
theorem isGuard_either_off (n : Expr) : (Shape.either .off .off).isGuard n = false := by
  cases n with
  | cond test ifTrue ifFalse t =>
    show ((Shape.either .off .off).guard? test ifTrue ifFalse).isSome = false
    cases hp : test.nullChecked? <;> simp [guard?, hp, match?, isDefault]
  | _ => rfl

theorem removals_either_off (e : Expr) : (Shape.either .off .off).removals e = 0 :=
  (removals_eq_zero_iff _ e).mpr (fun n _ => isGuard_either_off n)

end Shape

namespace Eraser

/-- One more tree outside of guards: the pass over it, and its guards added to the count. -/
theorem erase_outside (s : Shape) (n : Nat) (e : Expr) :
    Eraser.erase { shape := s, removed := n } e
      = (s.erase e, { shape := s, removed := n + s.removals e }) := rfl

end Eraser

namespace Rule

/-- **The rule that removes guards** gives back what the pass leaves, and reports a change if the
    pass has counted a guard. -/
theorem result_guardRemoval (settings : ErasureSettings) (e : Expr) :
    ((guardRemoval settings).act e).result
      = .ok ⟨(shapeOf settings).erase e, decide (0 < (shapeOf settings).removals e)⟩ := by
  by_cases hany : settings.removesAny = true
  · simp only [guardRemoval, hany, if_true]
    by_cases hcount : 0 < (shapeOf settings).removals e
    · have hcount' : 0 < ((shapeOf settings).sweep false e).notes.countP Note.isRemoval := hcount
      simp only [hcount, hcount', decide_true, if_true]
      rfl
    · -- the rule does not look at what the pass leaves, which is the tree itself
      have hself : (shapeOf settings).erase e = e :=
        (Shape.erase_eq_self_iff _ e).mpr (Nat.eq_zero_of_not_pos hcount)
      have hcount' : ¬0 < ((shapeOf settings).sweep false e).notes.countP Note.isRemoval := hcount
      simp only [hcount, hcount', decide_false, hself]
      rfl
  · -- with both sorts of guards left alone, nothing is a guard
    have hoff : shapeOf settings = .either .off .off := by
      rw [Bool.not_eq_true, ErasureSettings.removesAny, Bool.or_eq_false_iff] at hany
      rw [shapeOf, hany.1, hany.2]
      rfl
    have hzero : (Shape.either .off .off).removals e = 0 := Shape.removals_either_off e
    simp only [guardRemoval, hany, hoff, hzero, (Shape.erase_eq_self_iff _ e).mpr hzero]
    rfl

end Rule

/-- **The effect of a pass**, started outside of guards with any count.

    * Without a guard among its nodes a tree stays as it is, node by node, and so does the count.
    * With one, the count grows, and for every guard that it grows by at least five nodes go.
    * So the rule that removes guards, whatever the settings, reports a change exactly if it
      gives another tree back. -/
theorem Eraser.erase_effect (s : Shape) (n : Nat) (e : Expr) :
    ((∀ g ∈ e.nodes, s.isGuard g = false) →
        (Eraser.sweep { shape := s, removed := n } e).1 = .keep
          ∧ Eraser.erase { shape := s, removed := n } e = (e, { shape := s, removed := n }))
      ∧ ((∃ g ∈ e.nodes, s.isGuard g = true) →
        ∃ k, 1 ≤ k
          ∧ (Eraser.erase { shape := s, removed := n } e).2 = { shape := s, removed := n + k }
          ∧ (Eraser.erase { shape := s, removed := n } e).1.size + 5 * k ≤ e.size)
      ∧ ∀ settings, ∃ w, ((Rule.guardRemoval settings).act e).result = .ok w
        ∧ (w.changed = true ↔ w.expr ≠ e) := by
  refine ⟨fun hnone => ?_, fun ⟨g, hg, hguard⟩ => ?_, fun settings => ?_⟩
  · have hzero : s.removals e = 0 := (s.removals_eq_zero_iff e).mpr hnone
    refine ⟨Shape.sweep_eq_keep_of_removals hzero, ?_⟩
    rw [Eraser.erase_outside, (s.erase_eq_self_iff e).mpr hzero, hzero, Nat.add_zero]
  · have hpos : s.removals e ≠ 0 := by
      intro hzero
      rw [(s.removals_eq_zero_iff e).mp hzero g hg] at hguard
      cases hguard
    exact ⟨s.removals e, Nat.one_le_iff_ne_zero.mpr hpos, rfl,
      Shape.size_swept_add_removed_le s false e⟩
  · have hchanged : 0 < (Rule.shapeOf settings).removals e
        ↔ (Rule.shapeOf settings).erase e ≠ e := by
      rw [Nat.pos_iff_ne_zero, ne_eq, ne_eq, Shape.erase_eq_self_iff]
    exact ⟨_, Rule.result_guardRemoval settings e, decide_eq_true_iff.trans hchanged⟩

/-- A guard on a path that is itself guarded counts once, and takes more than five nodes along; a
    choice of the opposite polarity stays. -/
theorem Eraser.erase_effect_nestedGuard :
    (∃ k, 1 ≤ k
        ∧ (Eraser.erase { shape := .both, removed := 3 } Samples.nestedGuard).2
          = { shape := .both, removed := 3 + k }
        ∧ (Eraser.erase { shape := .both, removed := 3 } Samples.nestedGuard).1.size + 5 * k
          ≤ Samples.nestedGuard.size)
      ∧ Eraser.erase { shape := .both, removed := 3 } Samples.oppositeGuard
        = (Samples.oppositeGuard, { shape := .both, removed := 3 }) := by
  obtain ⟨_, hsome, _⟩ := Eraser.erase_effect .both 3 Samples.nestedGuard
  obtain ⟨hnone, _, _⟩ := Eraser.erase_effect .both 3 Samples.oppositeGuard
  exact ⟨hsome ⟨Samples.nestedGuard, List.mem_cons_self, by decide⟩, (hnone (by decide)).2⟩

end GuardErasure
