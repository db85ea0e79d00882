import GuardErasure.Proofs.Eval.Fits
import GuardErasure.Proofs.Value.Order

namespace GuardErasure

/-!
# Comparisons

Two operators compare by equality and four by order.  What they say of two operands, in either direction,
is of a piece.

* `BinOp.isOrder` — the four operators;
* `Value.Coherent` — null, refused or ordered: what the six comparisons come to in each of these cases;
* `Value.coherent_of_eq` — so it is for the comparisons of two values;
* `Table.eval_comparisons` — and for those of two expressions.
-/

/-- Does the operator compare its operands by their order? -/
def BinOp.isOrder : BinOp → Bool
  | less | lessEq | greater | greaterEq => true
  | _ => false

theorem BinOp.not_logical_of_isOrder {op : BinOp} (h : op.isOrder = true) : op.family ≠ .logical := by
  cases op <;> first | decide | cases h

namespace Value

/-- What comparisons of two values come to, `there` with the values in this order and `back` with the
    operands turned round. -/
structure Coherent (v w : Value) (there back : BinOp → Except Fault Value) : Prop where
  /-- Beside null every order is unknown. -/
  null : v.isNull = true ∨ w.isNull = true → ∀ op : BinOp, op.isOrder = true → there op = .ok .null
  /-- Values without an order are refused by all four operators. -/
  refused : v.isNull = false → w.isNull = false → ¬v.Comparable w →
    ∀ op : BinOp, op.isOrder = true → ∃ f, there op = .error f ∧ f.kind = .type
  /-- Of values that have an order just one of three things is true, and the other comparisons follow
      from them. -/
  ordered : v.Comparable w → ∃ lt eq gt : Bool, [lt, eq, gt].count true = 1
    ∧ there .less = .ok (.bool lt) ∧ there .equal = .ok (.bool eq) ∧ there .greater = .ok (.bool gt)
    ∧ there .lessEq = .ok (.bool !gt) ∧ there .greaterEq = .ok (.bool !lt)
    ∧ back .greater = .ok (.bool lt) ∧ back .less = .ok (.bool gt)
  /-- Any two values are equal or not, in whichever direction they are compared. -/
  equal : ∃ eq : Bool, there .equal = .ok (.bool eq) ∧ there .notEqual = .ok (.bool !eq)
    ∧ back .equal = .ok (.bool eq) ∧ back .notEqual = .ok (.bool !eq)

variable {v w : Value}

/-- Null has no order. -/
theorem Comparable.not_isNull (h : v.Comparable w) : v.isNull = false ∧ w.isNull = false := by
  cases h with
  | integers | texts => exact ⟨rfl, rfl⟩
  | numbers hv hw =>
    constructor
    · cases v with
      | null => cases hv
      | _ => rfl
    · cases w with
      | null => cases hw
      | _ => rfl

/-- The four operators ask for the order of operands of which none is null. -/
theorem applyBinary_of_isOrder {op : BinOp} (hop : op.isOrder = true) (v w : Value) :
    applyBinary op v w = if v.isNull || w.isNull then .ok .null
      else v.order w >>= fun o => .ok (.bool (holdsOf op o)) := by
  cases op <;> first | rfl | cases hop

/-- What they say of an order that there is. -/
theorem applyBinary_of_order? {op : BinOp} (hop : op.isOrder = true) {o : Ordering}
    (h : v.order? w = some o) : applyBinary op v w = .ok (.bool (holdsOf op o)) := by
  have hordered : v.Comparable w := (isSome_order?_iff v w).mp (Option.isSome_of_eq_some h)
  rw [applyBinary_of_isOrder hop, hordered.not_isNull.1, hordered.not_isNull.2, order, h]
  rfl

/-- **Comparisons are coherent** as soon as they are those of the two values. -/
theorem coherent_of_eq {there back : BinOp → Except Fault Value}
    (hthere : ∀ op : BinOp, op.family ≠ .logical → there op = applyBinary op v w)
    (hback : ∀ op : BinOp, op.family ≠ .logical → back op = applyBinary op w v) :
    Coherent v w there back := by
  have horder (op : BinOp) (hop : op.isOrder = true) : there op = applyBinary op v w :=
    hthere op (BinOp.not_logical_of_isOrder hop)
  refine ⟨?_, ?_, ?_, ?_⟩
  · intro hnull op hop
    rw [horder op hop, applyBinary_of_isOrder hop, if_pos (Bool.or_eq_true_iff.mpr hnull)]
  · intro hv hw hnot op hop
    rw [← isSome_order?_iff, Option.not_isSome_iff_eq_none] at hnot
    rw [horder op hop, applyBinary_of_isOrder hop, hv, hw, order, hnot]
    exact ⟨_, rfl, rfl⟩
  · intro hordered
    obtain ⟨o, ho⟩ := Option.isSome_iff_exists.mp ((isSome_order?_iff v w).mpr hordered)
    have hturned : w.order? v = some o.swap := by
      rw [order?_swap v w, ho]
      rfl
    refine ⟨holdsOf .less o, o == .eq, holdsOf .greater o, ?_, ?_, ?_, ?_, ?_, ?_, ?_, ?_⟩
    · cases o <;> rfl
    · exact (hthere .less (by decide)).trans (applyBinary_of_order? rfl ho)
    · rw [← equals_of_order? ho]
      exact hthere .equal (by decide)
    · exact (hthere .greater (by decide)).trans (applyBinary_of_order? rfl ho)
    · rw [hthere .lessEq (by decide), applyBinary_of_order? rfl ho]
      cases o <;> rfl
    · rw [hthere .greaterEq (by decide), applyBinary_of_order? rfl ho]
      cases o <;> rfl
    · rw [hback .greater (by decide), applyBinary_of_order? rfl hturned]
      cases o <;> rfl
    · rw [hback .less (by decide), applyBinary_of_order? rfl hturned]
      cases o <;> rfl
  · refine ⟨v.equals w, hthere .equal (by decide), hthere .notEqual (by decide), ?_, ?_⟩
    · rw [equals_comm]
      exact hback .equal (by decide)
    · rw [equals_comm]
      exact hback .notEqual (by decide)

end Value

/-- **The six comparisons are coherent.**  For two expressions that both have a value: beside null the
    four comparisons by order are null; where there is no order they all fail, with a fault about types;
    and elsewhere just one of less, equal and greater is true, and the rest follows from these.  Two
    values that are not null have an order just if they are two integers, two texts, or two numbers none
    of which is a NaN.  Equality has an answer for any two values, and so has its opposite. -/
theorem Table.eval_comparisons (t : Table) (env : Scope) {l r : Expr} {v w : Value}
    (hl : t.eval l env = .ok v) (hr : t.eval r env = .ok w) (stored turned : BinOp → Ty) :
    Value.Coherent v w (fun op => t.eval (.binary op l r (stored op)) env)
      (fun op => t.eval (.binary op r l (turned op)) env) := by
  refine Value.coherent_of_eq (fun op hop => ?_) (fun op hop => ?_)
  · rw [t.eval_plain env hop, hl, hr]
    rfl
  · rw [t.eval_plain env hop, hl, hr]
    rfl

namespace Samples

/-- `limit`, a number that may be missing. -/
def limit : Expr := .param "limit" (.option .float64)

/-- An integer between two floats, and a limit. -/
def beside (limit : Value) : Scope := ⟨[("i", .int64 9007199254740993), ("limit", limit)]⟩

end Samples

/-- Compared with a float, the integer is the float next to it, which is the limit; with a NaN it is not
    compared, and beside a limit that is missing nothing is known. -/
theorem Table.eval_comparisons_limits :
    (Value.int64 9007199254740993).Comparable (.float64 9007199254740992)
      ∧ (∃ lt eq gt : Bool, [lt, eq, gt].count true = 1
        ∧ Samples.noRows.eval (.binary .equal Samples.start Samples.limit .bool)
          (Samples.beside (.float64 9007199254740992)) = .ok (.bool eq)
        ∧ Samples.noRows.eval (.binary .lessEq Samples.start Samples.limit .bool)
          (Samples.beside (.float64 9007199254740992)) = .ok (.bool !gt) ∧ eq = true)
      ∧ (∃ f, Samples.noRows.eval (.binary .lessEq Samples.start Samples.limit .bool)
          (Samples.beside (.float64 (0 / 0))) = .error f ∧ f.kind = .type)
      ∧ Samples.noRows.eval (.binary .lessEq Samples.start Samples.limit .bool)
          (Samples.beside .null) = .ok .null := by
  have hordered : (Value.int64 9007199254740993).Comparable (.float64 9007199254740992) :=
    .numbers rfl rfl (by decide) (by decide)
  have hnot : ¬(Value.int64 9007199254740993).Comparable (.float64 (0 / 0)) := by
    rw [← Value.isSome_order?_iff]
    decide
  refine ⟨hordered, ?_, ?_, ?_⟩
  · have hcoherent := eval_comparisons Samples.noRows
      (Samples.beside (.float64 9007199254740992)) (l := Samples.start) (r := Samples.limit) rfl rfl
      (fun _ => .bool) (fun _ => .bool)
    obtain ⟨lt, eq, gt, hone, -, heq, -, hle, -⟩ := hcoherent.ordered hordered
    refine ⟨lt, eq, gt, hone, heq, hle, ?_⟩
    cases heq
    rfl
  · have hcoherent := eval_comparisons Samples.noRows (Samples.beside (.float64 (0 / 0)))
      (l := Samples.start) (r := Samples.limit) rfl rfl (fun _ => .bool) (fun _ => .bool)
    exact hcoherent.refused rfl rfl hnot .lessEq rfl
  · have hcoherent := eval_comparisons Samples.noRows (Samples.beside .null)
      (l := Samples.start) (r := Samples.limit) rfl rfl (fun _ => .bool) (fun _ => .bool)
    exact hcoherent.null (.inr rfl) .lessEq rfl

end GuardErasure
