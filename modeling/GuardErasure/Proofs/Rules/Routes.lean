import GuardErasure.Proofs.Guard.Bases
import GuardErasure.Proofs.Rules.Fixpoint

namespace GuardErasure

/-!
# All routes remove the same guards

Guards are removed by functions for the basic shapes, by a rule with settings and by the usual
strategy.  Each of them puts its shape together in its own way:

* `Shape.erase_eq_of_has` — shapes in which the same basic shapes occur leave the same tree;
* `Rule.eraseAsked`, `Rule.erase_shapeOf` — what the settings ask for, as one of those functions;
* `result_withoutGuards` — the usual strategy makes one pass for both basic shapes;
* `Eraser.erase_by_bases` — all of it together.
-/

namespace Shape

variable {s s' : Shape}

/-- **Shapes in which the same basic shapes occur** leave the same tree. -/
theorem erase_eq_of_has (hmember : s.has .member = s'.has .member)
    (hmethod : s.has .method = s'.has .method) (e : Expr) : s.erase e = s'.erase e :=
  erase_congr (match?_congr hmember hmethod) e

end Shape

namespace Rule

/-- Remove the guards that the settings ask for, with the function for them. -/
def eraseAsked (settings : ErasureSettings) : Expr → Expr :=
  match settings.memberGuards, settings.callGuards with
  | true, false => eraseMemberGuards
  | false, true => eraseMethodGuards
  | true, true => eraseGuards
  | false, false => id

example : eraseAsked .membersOnly = eraseMemberGuards ∧ eraseAsked .callsOnly = eraseMethodGuards
    ∧ eraseAsked {} = eraseGuards := ⟨rfl, rfl, rfl⟩

/-- **The shape of the settings** leaves the tree that they ask for. -/
theorem erase_shapeOf (settings : ErasureSettings) (e : Expr) :
    (shapeOf settings).erase e = eraseAsked settings e := by
  obtain ⟨memberGuards, callGuards, maxPasses, keepTrace⟩ := settings
  cases memberGuards with
  | true =>
    cases callGuards with
    | true =>
      show (Shape.either (.on .member) (.on .method)).erase e = Shape.both.erase e
      exact Shape.erase_eq_of_has (by rfl) (by rfl) e
    | false =>
      show (Shape.either (.on .member) .off).erase e = Shape.member.erase e
      exact Shape.erase_eq_of_has (by rfl) (by rfl) e
  | false =>
    cases callGuards with
    | true =>
      show (Shape.either .off (.on .method)).erase e = Shape.method.erase e
      exact Shape.erase_eq_of_has (by rfl) (by rfl) e
    | false =>
      -- nothing is a guard where neither basic shape occurs
      show (Shape.either .off .off).erase e = e
      exact (Shape.erase_eq_self_iff _ e).mpr (Shape.removals_either_off e)

end Rule

/-- **The usual strategy** makes a single pass, for both basic shapes. -/
theorem result_withoutGuards (e : Expr) : (withoutGuards e).result = .ok (eraseGuards e) := by
  obtain ⟨r, hrun, hexpr⟩ : ∃ r, (Strategy.usual.run e).result = .ok r
      ∧ r.expr = (Rule.shapeOf {}).erase e := by
    have hpass : (Strategy.usual.pass { expr := e }).result = _ :=
      Strategy.result_pass_erasing {} { expr := e }
    have hpasses : (Strategy.usual.passes 1 { expr := e }).result = _ :=
      Strategy.result_passes_succ hpass
    -- no pass is left after this one, whether or not it has removed a guard
    rw [Strategy.result_passes_zero, ite_self] at hpasses
    exact ⟨_, hpasses, Strategy.expr_noted _ _ _ _⟩
  calc (withoutGuards e).result
      = (Strategy.usual.run e).result >>= fun r => .ok r.expr := Run.result_bind _ _
    _ = .ok r.expr := by rw [hrun]; rfl
    _ = .ok (eraseGuards e) := by rw [hexpr, Rule.erase_shapeOf]; rfl

/-- **Order and nesting of shapes do not matter**, and the settings agree with the functions.

    * Started alike, runs for shapes in which the same basic shapes occur leave the same tree and
      come to the same count.
    * A match agrees with the three questions that it combines.
    * The rule gives back what the function for its settings does, whatever else they say.
    * So does the usual strategy, for both basic shapes. -/
theorem Eraser.erase_by_bases {s s' : Shape} (hmember : s.has .member = s'.has .member)
    (hmethod : s.has .method = s'.has .method) :
    (∀ inside n e,
        (Eraser.erase { shape := s, inside := inside, removed := n } e).1
            = (Eraser.erase { shape := s', inside := inside, removed := n } e).1
          ∧ (Eraser.erase { shape := s, inside := inside, removed := n } e).2.removed
            = (Eraser.erase { shape := s', inside := inside, removed := n } e).2.removed)
      ∧ (∀ t f u, s.match? t f = some u → s.isDefault t = true ∧ s.operand? f = some u.operand
        ∧ (s.part f).of f = u.part.of f)
      ∧ (∀ settings e, ((Rule.guardRemoval settings).act e).result.map Outcome.expr
        = .ok (Rule.eraseAsked settings e))
      ∧ ∀ e, (withoutGuards e).result = .ok (eraseGuards e) := by
  have hmatch : ∀ t f, s.match? t f = s'.match? t f := Shape.match?_congr hmember hmethod
  refine ⟨fun inside n e => ⟨?_, ?_⟩, fun t f u h => ?_, fun settings e => ?_,
    result_withoutGuards⟩
  · exact congrArg (Change.result e) (Shape.change_sweep_congr hmatch inside e)
  · exact congrArg (n + ·) (Shape.removed_congr hmatch inside e)
  · obtain ⟨hdefault, hoperand, hpart⟩ := Shape.match?_agrees h
    exact ⟨hdefault, hoperand, congrArg (Part.of · f) hpart⟩
  · rw [Rule.result_guardRemoval]
    exact congrArg Except.ok (Rule.erase_shapeOf settings e)

namespace Samples

/-- Both basic shapes in another order, one of them twice, beside a shape that is off. -/
def regrouped : Shape := .either (.on (.either .off .method)) (.either .member .method)

/-- A member guard and a method guard. -/
def guardsOfBothShapes : Expr := flagGuard.combine .and nameGuardTest

end Samples

/-- A read of a wrapper's value is matched as such, although the method shape stands first and has
    the same default. -/
theorem Eraser.erase_by_bases_regrouped :
    Samples.regrouped.has .member = Shape.both.has .member
      ∧ Samples.regrouped.has .method = Shape.both.has .method
      ∧ (Eraser.erase { shape := Samples.regrouped, removed := 1 } Samples.guardsOfBothShapes).1
        = Samples.flag.combine .and Samples.nameTest
      ∧ (Eraser.erase { shape := Samples.regrouped, removed := 1 }
        Samples.guardsOfBothShapes).2.removed = 3
      ∧ Samples.regrouped.operand? Samples.flag.readValue = some Samples.flag
      ∧ (Samples.regrouped.part Samples.flag.readValue).of Samples.flag.readValue = Samples.flag
      ∧ ((Rule.guardRemoval .callsOnly).act Samples.guardsOfBothShapes).result.map Outcome.expr
        = .ok (Samples.flagGuard.combine .and Samples.nameTest)
      ∧ (withoutGuards Samples.guardsOfBothShapes).result
        = .ok (Samples.flag.combine .and Samples.nameTest) := by
  have hmember : Samples.regrouped.has .member = Shape.both.has .member := by decide
  have hmethod : Samples.regrouped.has .method = Shape.both.has .method := by decide
  obtain ⟨hrun, hagrees, hrule, hwithout⟩ := Eraser.erase_by_bases hmember hmethod
  have hmatch : Samples.regrouped.match? (.ofValue (.bool false)) Samples.flag.readValue
      = some ⟨Samples.flag, .owner⟩ := rfl
  obtain ⟨htree, hcount⟩ := hrun false 1 Samples.guardsOfBothShapes
  obtain ⟨_, hoperand, hpart⟩ := hagrees _ _ _ hmatch
  exact ⟨hmember, hmethod, htree.trans rfl, hcount.trans rfl, hoperand, hpart,
    hrule .callsOnly Samples.guardsOfBothShapes, hwithout Samples.guardsOfBothShapes⟩

end GuardErasure
