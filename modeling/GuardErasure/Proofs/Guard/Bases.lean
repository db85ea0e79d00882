import GuardErasure.Proofs.Guard.Alike
import GuardErasure.Proofs.Guard.Removed

namespace GuardErasure.Shape

/-!
# The basic shapes in a shape

Two shapes are tried in order, and the first that matches decides.  But an expression is a use of one
basic shape at most, so that neither the order of shapes nor the way they are put together matters:

* `has` — the basic shapes that occur in a shape;
* `use?`, `use?_of_operand?`, `use?_of_match?` — the one use that any shape can find in an
  expression;
* `match?_agrees` — so a match agrees with the answers to the three questions that it combines;
* `match?_eq_some_iff`, `match?_congr` — a shape matches as one of its basic shapes does;
* `removed_congr` — and shapes that match alike count alike.
-/

variable {s s' : Shape}

/-- Does a basic shape occur in a shape? -/
def has : Shape → Shape → Bool
  | on s, base => s.has base
  | either a b, base => a.has base || b.has base
  | s, base => s == base

/-! ### Uses -/

/-- The use that an expression is, of one basic shape or the other. -/
def use? (f : Expr) : Option Use :=
  ((memberOperand? f).map (⟨·, .owner⟩)).or ((methodOperand? f).map (⟨·, .whole⟩))

/-- A call reads no member. -/
theorem memberOperand?_of_method {f o : Expr} (h : methodOperand? f = some o) :
    memberOperand? f = none := by
  cases f with
  | member owner n t => cases h
  | _ => rfl

/-- What a shape finds in an expression is its one use. -/
theorem use?_of_operand? {f o : Expr} (h : s.operand? f = some o) :
    use? f = some ⟨o, s.part f⟩ := by
  induction s with
  | member =>
    have hoperand : memberOperand? f = some o := h
    rw [use?, part, hoperand]
    rfl
  | method =>
    have hoperand : methodOperand? f = some o := h
    rw [use?, memberOperand?_of_method hoperand, hoperand]
    rfl
  | off => cases h
  | on s ih => exact ih h
  | either a b iha ihb =>
    rw [operand?, Option.or_eq_some_iff] at h
    rcases h with ha | ⟨hnone, hb⟩
    · rw [part, ha]
      exact iha ha
    · rw [part, hnone]
      exact ihb hb

/-- A match consists of a default and a use. -/
theorem use?_of_match? {t f : Expr} {u : Use} (h : s.match? t f = some u) :
    s.isDefault t = true ∧ (s.operand? f).isSome = true ∧ use? f = some u := by
  induction s with
  | member | method | off =>
    simp only [match?, Option.ite_none_right_eq_some] at h
    obtain ⟨hdefault, hmap⟩ := h
    obtain ⟨o, hoperand, rfl⟩ := Option.map_eq_some_iff.mp hmap
    exact ⟨hdefault, Option.isSome_of_eq_some hoperand, use?_of_operand? hoperand⟩
  | on s ih => exact ih h
  | either a b iha ihb =>
    rw [match?, Option.or_eq_some_iff] at h
    rw [isDefault, operand?, Option.isSome_or, Bool.or_eq_true, Bool.or_eq_true]
    rcases h with ha | ⟨_, hb⟩
    · obtain ⟨hdefault, hoperand, huse⟩ := iha ha
      exact ⟨.inl hdefault, .inl hoperand, huse⟩
    · obtain ⟨hdefault, hoperand, huse⟩ := ihb hb
      exact ⟨.inr hdefault, .inr hoperand, huse⟩

/-- **A match agrees with the three questions that it combines**, even if of two shapes it is the
    second that matches and the first that answers one of them. -/
theorem match?_agrees {t f : Expr} {u : Use} (h : s.match? t f = some u) :
    s.isDefault t = true ∧ s.operand? f = some u.operand ∧ s.part f = u.part := by
  obtain ⟨hdefault, hoperand, huse⟩ := use?_of_match? h
  obtain ⟨o, ho⟩ := Option.isSome_iff_exists.mp hoperand
  rw [use?_of_operand? ho] at huse
  cases huse
  exact ⟨hdefault, ho, rfl⟩

/-! ### Shapes with the same basic shapes -/

/-- **A shape matches** as one of the basic shapes that occur in it does. -/
theorem match?_eq_some_iff {t f : Expr} {u : Use} :
    s.match? t f = some u ↔
      s.has .member = true ∧ Shape.member.match? t f = some u
        ∨ s.has .method = true ∧ Shape.method.match? t f = some u := by
  induction s with
  | member => simp [has]
  | method => simp [has]
  | off => simp [has, match?, isDefault]
  | on s ih => exact ih
  | either a b iha ihb =>
    rw [match?, Option.or_eq_some_iff, has, has, Bool.or_eq_true, Bool.or_eq_true]
    constructor
    · rintro (ha | ⟨-, hb⟩)
      · exact (iha.mp ha).imp (.imp_left .inl) (.imp_left .inl)
      · exact (ihb.mp hb).imp (.imp_left .inr) (.imp_left .inr)
    · intro h
      -- if the first shape matches as well, then with the same use, as there is but one
      have huse : use? f = some u := by
        rcases h with ⟨_, h⟩ | ⟨_, h⟩
        · exact (use?_of_match? h).2.2
        · exact (use?_of_match? h).2.2
      cases ha : a.match? t f with
      | some u' =>
        have huse' : use? f = some u' := (use?_of_match? ha).2.2
        exact .inl (huse'.symm.trans huse)
      | none =>
        have hnot : ¬(a.match? t f = some u) := by simp [ha]
        rw [iha, not_or] at hnot
        refine .inr ⟨rfl, ihb.mpr ?_⟩
        rcases h with ⟨hhas, h⟩ | ⟨hhas, h⟩
        · exact .inl ⟨hhas.resolve_left (fun hm => hnot.1 ⟨hm, h⟩), h⟩
        · exact .inr ⟨hhas.resolve_left (fun hm => hnot.2 ⟨hm, h⟩), h⟩

/-- Shapes in which the same basic shapes occur match alike. -/
theorem match?_congr (hmember : s.has .member = s'.has .member)
    (hmethod : s.has .method = s'.has .method) (t f : Expr) : s.match? t f = s'.match? t f := by
  ext u
  rw [match?_eq_some_iff, hmember, hmethod, ← match?_eq_some_iff]

/-- Shapes that match alike count alike. -/
theorem removed_congr (h : ∀ t f, s.match? t f = s'.match? t f) (inside : Bool) (e : Expr) :
    s.removed inside e = s'.removed inside e := by
  induction inside, e using s.inductSwept with
  | leaf _ e he => rw [removed_leaf he, removed_leaf he]
  | member _ owner n t ih => exact ih
  | lambda _ params body ih => exact ih
  | call _ m args t ih => rw [removed_call, removed_call, List.map_congr_left ih]
  | callOn _ receiver m args t ihr ih =>
    rw [removed_callOn, removed_callOn, ihr, List.map_congr_left ih]
  | unary _ op operand t _ ih => rw [removed_unary, removed_unary, ih]
  | stripped operand t _ ih => rw [removed_unary, removed_unary, ih]
  | outside op left right t ihl ihr => rw [removed_binary, removed_binary, ihl, ihr]
  | leftDropped op left right t _ ihl ihr => rw [removed_binary, removed_binary, ihl, ihr]
  | rightDropped op left right t _ _ ihl ihr => rw [removed_binary, removed_binary, ihl, ihr]
  | companion op left right t _ _ _ ihl ihr => rw [removed_binary, removed_binary, ihl, ihr]
  | bothLeft op left right t _ _ _ ihl ihr => rw [removed_binary, removed_binary, ihl, ihr]
  | ownerGuard _ test ifTrue owner u t path hg ih =>
    have hg' := (guard?_congr (h ifTrue _)).symm.trans hg
    rw [removed_ownerGuard hg, removed_ownerGuard hg', ih]
  | wholeGuard _ test ifTrue ifFalse t path hg ih =>
    have hg' := (guard?_congr (h ifTrue _)).symm.trans hg
    rw [removed_wholeGuard hg, removed_wholeGuard hg', ih]
  | collapsed test ifTrue ifFalse t hg hnull ih =>
    have hg' := (guard?_congr (h ifTrue _)).symm.trans hg
    rw [removed_collapsed hg hnull, removed_collapsed hg' hnull, ih]
  | cond _ test ifTrue ifFalse t hg hkeep iha ihb ihc =>
    have hg' := (guard?_congr (h ifTrue _)).symm.trans hg
    rw [removed_cond hg hkeep, removed_cond hg' hkeep, iha, ihb, ihc]

end GuardErasure.Shape
