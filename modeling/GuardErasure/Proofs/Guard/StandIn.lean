import GuardErasure.Proofs.Eval.Fits
import GuardErasure.Proofs.Guard.DroppedChecks

namespace GuardErasure

/-!
# A dropped operand, and `true` in its place

A dropped test has two readings.  Outside of guards `true` stands in its place; inside of guards
its operation gives way to the other operand, the sibling.  This module compares the two:

* `BinOp.tellsTrue`, `BinOp.ignoresTrue` — the operators that may tell `true` beside a value from
  the value alone, and the values from which they do not;
* `Value.eq_iff_ignoresTrue` — an operation of `true` and a value has this very value exactly if the
  operator ignores the `true`;
* `Table.eval_trueLeft`, `Table.eval_trueRight` — the same of expressions;
* `eval_sibling_iff` — so the two readings of a dropped operand agree under eight of the operators,
  and under the other four exactly where they ignore the `true`.
-/

namespace BinOp

/-- May the operator tell `true` beside a value from the value alone? -/
def tellsTrue : BinOp → Bool
  | or | equal | notEqual | add => true
  | _ => false

/-- Does an operation of `true` and this value, if it has a value at all, have this very one?  An
    `or` is true then, an equality is a truth value, an inequality is the opposite one, and a sum
    with a text is a longer text. -/
def ignoresTrue (op : BinOp) (w : Value) : Bool :=
  match op with
  | or => w.toBool? == some true
  | equal => w.kind == .bool
  | notEqual => false
  | add => w.kind != .string
  | _ => true

theorem ignoresTrue_of_not_tellsTrue {op : BinOp} (h : op.tellsTrue = false) (w : Value) :
    op.ignoresTrue w = true := by
  cases op <;> first | rfl | cases h

end BinOp

/-! ### Operations of values -/

namespace Value

variable {op : BinOp} {v w : Value}

/-- Nothing but `true` equals `true`. -/
theorem equals_true (w : Value) :
    (bool true).equals w = (w.toBool? == some true)
      ∧ w.equals (bool true) = (w.toBool? == some true) := by
  cases w with
  | bool b => cases b <;> exact ⟨rfl, rfl⟩
  | _ => exact ⟨rfl, rfl⟩

/-- A truth value stands in no order to anything. -/
theorem order_true (w : Value) :
    (∃ f, (bool true).order w = .error f) ∧ ∃ f, w.order (bool true) = .error f := by
  cases w <;> exact ⟨⟨_, rfl⟩, ⟨_, rfl⟩⟩

/-- A truth value goes into no computation but a sum with a text. -/
theorem arithmetic_true (h : ¬(op = .add ∧ w.kind = .string)) :
    (∃ f, arithmetic op (bool true) w = .error f) ∧ ∃ f, arithmetic op w (bool true) = .error f := by
  cases w with
  | string s =>
    have hop : op ≠ .add := fun ha => h ⟨ha, rfl⟩
    simp [arithmetic, hop, toFloat?]
  | _ => simp [arithmetic, kind, toFloat?]

/-- Any other operator than an equality leads from `true` to nothing but null. -/
theorem null_of_applyBinary_true (hop : op.family ≠ .logical)
    (heq : ¬(op = .equal ∨ op = .notEqual)) (hsum : ¬(op = .add ∧ w.kind = .string))
    (h : applyBinary op (bool true) w = .ok v ∨ applyBinary op w (bool true) = .ok v) :
    w = .null ∧ v = .null := by
  obtain ⟨⟨f, hf⟩, ⟨g, hg⟩⟩ := order_true w
  obtain ⟨⟨f', hf'⟩, ⟨g', hg'⟩⟩ := arithmetic_true hsum
  rw [applyBinary_eq hop heq, applyBinary_eq hop heq, hf, hg, hf', hg'] at h
  cases w with
  | null =>
    have hv : v = .null := by
      rcases h with h | h <;> cases h <;> rfl
    exact ⟨rfl, hv⟩
  | _ =>
    -- neither the comparison nor the computation has a value
    have hfails : ∀ f g : Fault,
        (if op.family = .comparison then Except.error f >>= fun o => .ok (.bool (holdsOf op o))
          else .error g) ≠ .ok v := by
      intro f g hok
      by_cases hcomp : op.family = .comparison
      · rw [if_pos hcomp] at hok
        cases hok
      · rw [if_neg hcomp] at hok
        cases hok
    rcases h with h | h
    · exact absurd h (hfails f f')
    · exact absurd h (hfails g g')

/-- **An operation of `true` and a value** has this very value exactly if the operator ignores the
    `true`. -/
theorem eq_iff_ignoresTrue (hop : op.family ≠ .logical)
    (h : applyBinary op (bool true) w = .ok v ∨ applyBinary op w (bool true) = .ok v) :
    w = v ↔ op.ignoresTrue w = true := by
  by_cases heq : op = .equal ∨ op = .notEqual
  · obtain ⟨hleft, hright⟩ := equals_true w
    rcases heq with rfl | rfl
    · have hv : bool (w.toBool? == some true) = v := by
        simpa [applyBinary, hleft, hright] using h
      subst hv
      cases w with
      | bool b => cases b <;> simp [BinOp.ignoresTrue, toBool?, kind]
      | _ => simp [BinOp.ignoresTrue, kind]
    · have hv : bool (!(w.toBool? == some true)) = v := by
        simpa [applyBinary, hleft, hright] using h
      subst hv
      cases w with
      | bool b => cases b <;> simp [BinOp.ignoresTrue, toBool?]
      | _ => simp [BinOp.ignoresTrue]
  · by_cases hsum : op = .add ∧ w.kind = .string
    · obtain ⟨rfl, hkind⟩ := hsum
      obtain ⟨s, rfl⟩ : ∃ s, w = .string s := by
        cases w with
        | string s => exact ⟨s, rfl⟩
        | _ => cases hkind
      -- the sum is longer than the text by the word
      have hne : string s ≠ v := by
        rintro rfl
        have hlength : ("true" ++ s).length = s.length ∨ (s ++ "true").length = s.length := by
          refine h.imp (fun hs => ?_) (fun hs => ?_)
          · exact congrArg String.length (string.inj (Except.ok.inj hs))
          · exact congrArg String.length (string.inj (Except.ok.inj hs))
        have hword : "true".length = 4 := rfl
        rw [String.length_append, String.length_append] at hlength
        omega
      exact iff_of_false hne (by simp [BinOp.ignoresTrue, kind])
    · obtain ⟨rfl, rfl⟩ := null_of_applyBinary_true hop heq hsum h
      refine iff_of_true rfl ?_
      cases op with
      | equal => exact absurd (.inl rfl) heq
      | notEqual => exact absurd (.inr rfl) heq
      | or => exact absurd rfl hop
      | _ => rfl

end Value

/-! ### Operations of expressions -/

namespace Table

variable {t : Table} {op : BinOp} {e : Expr} {env : Scope} {v : Value}

theorem eq_true_of_eval (h : t.eval .trueLiteral env = .ok v) : v = .bool true :=
  (Except.ok.inj h).symm

/-- With `true` on its left any operator but `or` reads its right operand. -/
theorem eval_trueLeft (hop : op ≠ .or)
    (h : t.eval (Expr.trueLiteral.combine op e) env = .ok v) :
    ∃ w, t.eval e env = .ok w ∧ (w = v ↔ op.ignoresTrue w = true) := by
  by_cases hlogic : op.family = .logical
  · cases op with
    | and =>
      have he : t.eval e env = .ok v := (Shape.value_of_leftTrue (fun _ => eq_true_of_eval) h).2
      exact ⟨v, he, iff_of_true rfl rfl⟩
    | or => exact absurd rfl hop
    | _ => cases hlogic
  · rw [Expr.combine, t.eval_plain env hlogic] at h
    obtain ⟨b, hb, h⟩ := bind_eq_ok.mp h
    obtain ⟨w, hw, h⟩ := bind_eq_ok.mp h
    rw [eq_true_of_eval hb] at h
    exact ⟨w, hw, Value.eq_iff_ignoresTrue hlogic (.inl h)⟩

/-- With `true` on its right every operator reads its left operand. -/
theorem eval_trueRight (hop : op ≠ .or)
    (h : t.eval (e.combine op .trueLiteral) env = .ok v) :
    ∃ w, t.eval e env = .ok w ∧ (w = v ↔ op.ignoresTrue w = true) := by
  by_cases hlogic : op.family = .logical
  · cases op with
    | and =>
      have he : t.eval e env = .ok v := Shape.value_of_rightTrue (fun _ _ => eq_true_of_eval) h
      exact ⟨v, he, iff_of_true rfl rfl⟩
    | or => exact absurd rfl hop
    | _ => cases hlogic
  · rw [Expr.combine, t.eval_plain env hlogic] at h
    obtain ⟨w, hw, h⟩ := bind_eq_ok.mp h
    obtain ⟨b, hb, h⟩ := bind_eq_ok.mp h
    rw [eq_true_of_eval hb] at h
    exact ⟨w, hw, Value.eq_iff_ignoresTrue hlogic (.inr h)⟩

/-- An `or` with `true` on either side is true, if it has a value. -/
theorem true_of_or (h : t.eval (Expr.trueLiteral.combine .or e) env = .ok v
      ∨ t.eval (e.combine .or .trueLiteral) env = .ok v) : v = .bool true := by
  rcases h with h | h
  · exact (Except.ok.inj h).symm
  · rw [Expr.combine, t.eval_logical env rfl] at h
    obtain ⟨w, hw, h⟩ := bind_eq_ok.mp h
    obtain ⟨l, hl, h⟩ := bind_eq_ok.mp h
    have hright : Value.joinTruth (Value.decisive .or) l (some true) = some true := if_pos (.inr rfl)
    by_cases hd : l = some (Value.decisive .or)
    · rw [if_pos hd] at h
      exact (Except.ok.inj h).symm
    · rw [if_neg hd] at h
      -- the right operand decides
      have hvalue : Except.ok (Value.ofTruth (Value.joinTruth (Value.decisive .or) l (some true)))
          = Except.ok v := h
      rw [hright] at hvalue
      exact (Except.ok.inj hvalue).symm

/-- What an operation with `true` on one side says about the operand on the other one. -/
theorem sibling_iff {x : Except Fault Value} (hor : op = .or → v = .bool true)
    (hother : op ≠ .or → ∃ w, x = .ok w ∧ (w = v ↔ op.ignoresTrue w = true)) :
    (op.tellsTrue = false → x = .ok v)
      ∧ (x = .ok v ↔ ∃ w, x = .ok w ∧ op.ignoresTrue w = true) := by
  by_cases hop : op = .or
  · obtain rfl : v = .bool true := hor hop
    subst hop
    refine ⟨fun htells => absurd htells (by decide), fun hx => ⟨_, hx, rfl⟩, ?_⟩
    rintro ⟨w, hx, hw⟩
    cases w with
    | bool b =>
      cases b with
      | true => exact hx
      | false => cases hw
    | _ => cases hw
  · obtain ⟨w, hx, hw⟩ := hother hop
    subst hx
    constructor
    · intro htells
      exact congrArg Except.ok (hw.mpr (BinOp.ignoresTrue_of_not_tellsTrue htells w))
    · constructor
      · intro hv
        exact ⟨w, rfl, hw.mp (Except.ok.inj hv)⟩
      · rintro ⟨w', hw', hignores⟩
        obtain rfl : w = w' := Except.ok.inj hw'
        exact congrArg Except.ok (hw.mpr hignores)

end Table

/-! ### The two readings -/

/-- **The two readings of a dropped operand.**  Suppose an operation inside a guard loses exactly one
    operand and gives way to what is left of the other one, and suppose the operation has a value
    with `true` in place of the dropped operand.  Then what is left has this value exactly if it has
    one from which the operator does not tell `true`; under an operator that never does, it has. -/
theorem eval_sibling_iff (s : Shape) (t : Table) (op : BinOp) (left right : Expr) (ty : Ty)
    (env : Scope) (v : Value) :
    (s.drops true left = true → s.drops true right = false →
        s.swept true (.binary op left right ty) = s.swept true right
          ∧ (t.eval (Expr.trueLiteral.combine op (s.swept true right)) env = .ok v →
            (op.tellsTrue = false → t.eval (s.swept true right) env = .ok v)
              ∧ (t.eval (s.swept true right) env = .ok v
                ↔ ∃ w, t.eval (s.swept true right) env = .ok w ∧ op.ignoresTrue w = true)))
      ∧ (s.drops true left = false → s.drops true right = true →
        s.swept true (.binary op left right ty) = s.swept true left
          ∧ (t.eval ((s.swept true left).combine op .trueLiteral) env = .ok v →
            (op.tellsTrue = false → t.eval (s.swept true left) env = .ok v)
              ∧ (t.eval (s.swept true left) env = .ok v
                ↔ ∃ w, t.eval (s.swept true left) env = .ok w ∧ op.ignoresTrue w = true))) := by
  constructor
  · intro hl _
    refine ⟨(Shape.givesWay_leftDropped hl).1, fun hv => ?_⟩
    exact Table.sibling_iff (fun hop => Table.true_of_or (.inl (hop ▸ hv)))
      (fun hop => Table.eval_trueLeft hop hv)
  · intro hl hr
    refine ⟨(Shape.givesWay_rightDropped hl hr).1, fun hv => ?_⟩
    exact Table.sibling_iff (fun hop => Table.true_of_or (.inr (hop ▸ hv)))
      (fun hop => Table.eval_trueRight hop hv)

namespace Samples

/-- `p.Name != null`, which is dropped inside of guards. -/
def named : Expr := name.neNull

/-- A person whose flag is this value, and with a name. -/
def withFlag (v : Value) : Scope :=
  ({} : Scope).bind "p" (.ofFields [("Flag", v), ("Name", .string "Ann")])

end Samples

/-- A test beside a flag under an `and`, where `true` makes no difference, and under an `or`, where
    it makes none because the flag is true. -/
theorem eval_sibling_named :
    Shape.both.drops true Samples.named = true ∧ Shape.both.drops true Samples.flag = false
      ∧ Samples.people.eval (Shape.both.swept true Samples.flag) (Samples.withFlag (.bool false))
        = .ok (.bool false)
      ∧ (Samples.people.eval (Shape.both.swept true Samples.flag) (Samples.withFlag (.bool true))
          = .ok (.bool true)
        ↔ ∃ w, Samples.people.eval (Shape.both.swept true Samples.flag)
            (Samples.withFlag (.bool true)) = .ok w ∧ BinOp.or.ignoresTrue w = true) := by
  have hl : Shape.both.drops true Samples.named = true := by decide
  have hr : Shape.both.drops true Samples.flag = false := by decide
  obtain ⟨_, hand⟩ := (eval_sibling_iff .both Samples.people .and Samples.named Samples.flag .bool
    (Samples.withFlag (.bool false)) (.bool false)).1 hl hr
  obtain ⟨_, hor⟩ := (eval_sibling_iff .both Samples.people .or Samples.flag Samples.named .bool
    (Samples.withFlag (.bool true)) (.bool true)).2 hr hl
  exact ⟨hl, hr, (hand rfl).1 rfl, (hor rfl).2⟩

/-- Each of the four operators that may tell `true` does so: beside a dropped test, a flag that is
    false under `or`, a flag that is null under `==`, a flag that is true under `!=`, and a name under
    `+` are not what the operation has as its value with `true` in place of the test. -/
theorem eval_sibling_ne :
    Shape.both.drops true Samples.named = true
      ∧ (Samples.people.eval (Expr.trueLiteral.combine .or (Shape.both.swept true Samples.flag))
          (Samples.withFlag (.bool false)) = .ok (.bool true)
        ∧ Samples.people.eval (Shape.both.swept true (Samples.named.combine .or Samples.flag))
          (Samples.withFlag (.bool false)) = .ok (.bool false))
      ∧ (Samples.people.eval (Expr.trueLiteral.combine .equal (Shape.both.swept true Samples.flag))
          (Samples.withFlag .null) = .ok (.bool false)
        ∧ Samples.people.eval (Shape.both.swept true (Samples.named.combine .equal Samples.flag))
          (Samples.withFlag .null) = .ok .null)
      ∧ (Samples.people.eval
          (Expr.trueLiteral.combine .notEqual (Shape.both.swept true Samples.flag))
          (Samples.withFlag (.bool true)) = .ok (.bool false)
        ∧ Samples.people.eval (Shape.both.swept true (Samples.named.combine .notEqual Samples.flag))
          (Samples.withFlag (.bool true)) = .ok (.bool true))
      ∧ (Samples.people.eval (Expr.trueLiteral.combine .add (Shape.both.swept true Samples.name))
          (Samples.withFlag .null) = .ok (.string "trueAnn")
        ∧ Samples.people.eval (Shape.both.swept true (Samples.named.combine .add Samples.name))
          (Samples.withFlag .null) = .ok (.string "Ann")) := by
  exact ⟨by decide, ⟨rfl, rfl⟩, ⟨rfl, rfl⟩, ⟨rfl, rfl⟩, ⟨rfl, rfl⟩⟩

end GuardErasure
