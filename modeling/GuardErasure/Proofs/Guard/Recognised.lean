import GuardErasure.Proofs.Expr.Same
import GuardErasure.Proofs.Guard.Tolerance

namespace GuardErasure

/-!
# Which lowered guards are recognised

The lowering of a guarded access writes its path twice, in the test and in the use, and the pass
compares the two copies.  So a lowered guard is recognised only if the path equals itself:

* `Shape.guard?_memberGuard_of_isOption` — what the pass finds at a member guard on a nullable path;
* `Shape.eraseMemberGuards_unrecognised`, `Shape.removals_unrecognised` — what the pass makes of a
  member guard that it does not recognise: it goes on in the two copies of the path;
* `isGuard_memberGuard_iff_noNaN` — a member guard is recognised exactly if there is no NaN in its
  path, and what the pass leaves and counts in either case;
* `isGuard_nanPath` — a lowered guard that stays.
-/

namespace Shape

section MemberGuard

variable {s : Shape} {path : Expr} (nullTy testTy valueTy ty : Ty)

/-- **What the pass finds** at a member guard on a nullable path: the path, if it equals itself. -/
theorem guard?_memberGuard_of_isOption (hs : s = .member ∨ s = .both)
    (hoption : path.ty.isOption = true) :
    s.guard? (.binary .equal path (.const .null nullTy) testTy) (.const (.bool false) .bool)
        (.member path .wrappedValue valueTy)
      = if path == path then some (path, .owner) else none := by
  have hoperand : memberOperand? (.member path .wrappedValue valueTy) = some path := if_pos hoption
  have hmember : Shape.member.match? (.const (.bool false) .bool) (.member path .wrappedValue valueTy)
      = some ⟨path, .owner⟩ := by
    simp only [match?, operand?, part, hoperand]
    rfl
  have hmatch : s.match? (.const (.bool false) .bool) (.member path .wrappedValue valueTy)
      = some ⟨path, .owner⟩ := by
    rcases hs with rfl | rfl
    · exact hmember
    · rw [both, match?, hmember]
      rfl
  have htest : (Expr.binary .equal path (.const .null nullTy) testTy).nullChecked? = some path := rfl
  simp only [guard?, htest, hmatch, Option.bind_eq_bind, Option.bind_some]

theorem isGuard_memberGuard_iff (hs : s = .member ∨ s = .both) (hoption : path.ty.isOption = true) :
    s.isGuard (path.memberGuard nullTy testTy valueTy ty) = true ↔ (path == path) = true := by
  show (s.guard? _ _ _).isSome = true ↔ _
  rw [guard?_memberGuard_of_isOption nullTy testTy valueTy hs hoption]
  cases path == path with
  | true => exact iff_of_true rfl rfl
  | false => exact iff_of_false (by simp) (by simp)

/-! ### Guards that are not recognised -/

variable (h : Shape.member.isGuard (path.memberGuard nullTy testTy valueTy ty) = false)

include h in
/-- A member guard that is not recognised stays one, and each copy of its path is swept. -/
theorem eraseMemberGuards_unrecognised :
    ∃ testTy', eraseMemberGuards (path.memberGuard nullTy testTy valueTy ty)
      = (eraseMemberGuards path).memberGuard nullTy testTy' valueTy ty := by
  obtain ⟨testTy', htest⟩ :=
    swept_outside (s := .member) .equal path (.const .null nullTy) testTy
  refine ⟨testTy', ?_⟩
  -- nothing happens to the two literals
  have hnull : Shape.member.swept false (.const .null nullTy) = .const .null nullTy :=
    swept_leaf rfl
  have hfalse : Shape.member.swept false (.const (.bool false) .bool) = .const (.bool false) .bool :=
    swept_leaf rfl
  show Shape.member.swept false (path.memberGuard nullTy testTy valueTy ty) = _
  rw [Expr.memberGuard, swept_cond (guard?_eq_none h) (by simp), htest, swept_member, hnull, hfalse]
  rfl

include h in
/-- What is counted there is what is counted in the two copies. -/
theorem removals_unrecognised :
    Shape.member.removals (path.memberGuard nullTy testTy valueTy ty)
      = 2 * Shape.member.removals path := by
  have hnull : Shape.member.removed false (.const .null nullTy) = 0 := removed_leaf rfl
  have hfalse : Shape.member.removed false (.const (.bool false) .bool) = 0 := removed_leaf rfl
  show Shape.member.removed false (path.memberGuard nullTy testTy valueTy ty)
    = 2 * Shape.member.removed false path
  rw [Expr.memberGuard, removed_cond (guard?_eq_none h) (by simp), removed_binary, removed_member,
    hnull, hfalse]
  omega

end MemberGuard

end Shape

/-! ### Recognition -/

/-- **A lowered guard is recognised** exactly if there is no NaN among the literals of its path.

    * If there is none, the guard gives way to what is left of the path inside a guard, `true` if
      that is dropped, and it counts as one guard beside those that go inside of it.
    * If there is one, the guard stays, on what is left of the path outside of guards, and counts
      for nothing. -/
theorem isGuard_memberGuard_iff_noNaN {path : Expr} (hoption : path.ty.isOption = true)
    (nullTy testTy valueTy ty : Ty) :
    (Shape.member.isGuard (path.memberGuard nullTy testTy valueTy ty) = true
        ↔ ∀ f ∈ path.floats, f.isNaN = false)
      ∧ ((∀ f ∈ path.floats, f.isNaN = false) →
        eraseMemberGuards (path.memberGuard nullTy testTy valueTy ty)
            = Shape.member.swept true path
          ∧ (Shape.member.drops true path = true →
            eraseMemberGuards (path.memberGuard nullTy testTy valueTy ty) = .trueLiteral)
          ∧ Shape.member.removals (path.memberGuard nullTy testTy valueTy ty)
            = Shape.member.removed true path + 1)
      ∧ ((∃ f ∈ path.floats, f.isNaN = true) →
        (∃ testTy', eraseMemberGuards (path.memberGuard nullTy testTy valueTy ty)
            = (eraseMemberGuards path).memberGuard nullTy testTy' valueTy ty)
          ∧ Shape.member.removals (path.memberGuard nullTy testTy valueTy ty)
            = 2 * Shape.member.removals path) := by
  have hiff : Shape.member.isGuard (path.memberGuard nullTy testTy valueTy ty) = true
      ↔ ∀ f ∈ path.floats, f.isNaN = false :=
    (Shape.isGuard_memberGuard_iff nullTy testTy valueTy ty (.inl rfl) hoption).trans
      path.beq_self_iff
  refine ⟨hiff, fun hfloats => ?_, fun ⟨f, hf, hnan⟩ => ?_⟩
  · have hguard : Shape.member.isGuard (path.memberGuard nullTy testTy valueTy ty) = true :=
      hiff.mpr hfloats
    have hswept := Shape.eraseMemberGuards_memberGuard hguard
    refine ⟨hswept, fun hdrop => ?_, Shape.removed_ownerGuard (Shape.guard?_memberGuard hguard)⟩
    rw [hswept, Shape.swept_of_drops hdrop]
  · have hguard : Shape.member.isGuard (path.memberGuard nullTy testTy valueTy ty) = false := by
      rw [← Bool.not_eq_true]
      intro htrue
      have hfalse : f.isNaN = false := hiff.mp htrue f hf
      rw [hnan] at hfalse
      cases hfalse
    exact ⟨Shape.eraseMemberGuards_unrecognised nullTy testTy valueTy ty hguard,
      Shape.removals_unrecognised nullTy testTy valueTy ty hguard⟩

namespace Samples

/-- `(Float64?)f` -/
def maybeFloat (f : Float) : Expr := (Expr.ofValue (.float64 f)).convertTo (.option .float64)

/-- `p?.Name.starts_with([1.5, null], () => p.Flag)`: lists, floats, lambdas and calls in a path. -/
def richPath : Expr :=
  .choose name.eqNull (.null (.option .bool))
    ((name.invoke "starts_with"
      [.const (.list [.float64 1.5, .null]) (.seq .float64), .lambda [] flag] .bool).convertTo
        (.option .bool))

end Samples

/-- A path with a list, a float and a lambda in it is recognised.  The choice in it gives way without
    being a guard, so that one guard is counted. -/
theorem isGuard_richPath :
    Samples.richPath.ty.isOption = true
      ∧ (∀ f ∈ Samples.richPath.floats, f.isNaN = false)
      ∧ Shape.member.isGuard Samples.richPath.guarded = true
      ∧ eraseMemberGuards Samples.richPath.guarded = Shape.member.swept true Samples.richPath
      ∧ Shape.member.removals Samples.richPath.guarded = 1 := by
  have hfloats : ∀ f ∈ Samples.richPath.floats, f.isNaN = false := by decide
  have hoption : Samples.richPath.ty.isOption = true := rfl
  have hrecognised := isGuard_memberGuard_iff_noNaN hoption Samples.richPath.ty .bool .bool .bool
  exact ⟨hoption, hfloats, hrecognised.1.mpr hfloats, (hrecognised.2.1 hfloats).1,
    (hrecognised.2.1 hfloats).2.2⟩

/-- **A guard that stays.**  Two NaNs are not equal, so the guard on `(Float64?)NaN` is not
    recognised: the pass leaves all of it, where what is left of its path is the path. -/
theorem isGuard_nanPath :
    (Samples.maybeFloat (0.0 / 0.0)).ty.isOption = true
      ∧ Shape.member.isGuard (Samples.maybeFloat (0.0 / 0.0)).guarded = false
      ∧ eraseMemberGuards (Samples.maybeFloat (0.0 / 0.0)).guarded
        = (Samples.maybeFloat (0.0 / 0.0)).guarded
      ∧ Shape.member.swept true (Samples.maybeFloat (0.0 / 0.0)) = Samples.maybeFloat (0.0 / 0.0)
      ∧ Shape.member.removals (Samples.maybeFloat (0.0 / 0.0)).guarded = 0 :=
  ⟨rfl, by decide, rfl, rfl, rfl⟩

end GuardErasure
