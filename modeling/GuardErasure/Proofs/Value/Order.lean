import GuardErasure.Eval.Operation
import GuardErasure.Proofs.Value.Tree

namespace GuardErasure

/-!
# Order and equality of values

The order behind `<`, `<=`, `>` and `>=` and the equality behind `==` are two functions with rules of
their own.  They agree wherever there is an order:

* `Value.floatOrder?_eq_compare` — the order of floats is that of their unpacked forms, so that it turns
  round with its operands and is there unless one of them is a NaN;
* `Value.Comparable` — the values that have an order, as `Value.isSome_order?_iff` says;
* `Value.order?_swap`, `Value.equals_comm` — operands turned round;
* `Value.equals_of_order?` — where there is an order, values are equal just if it says so.
-/

/-! ### Unpacked floats -/

section Unpacked

open Float.Model (UnpackedFloat)

/-- Signs, exponents and mantissas all have an order that turns round with its operands. -/
theorem unpacked_compare_swap (a b : UnpackedFloat) :
    b.compare a = (a.compare b).map Ordering.swap := by
  cases a with
  | notANumber => cases b <;> rfl
  | infinity s =>
    cases b with
    | infinity t => cases s <;> cases t <;> rfl
    | _ => cases s <;> rfl
  | zero s =>
    cases b with
    | notANumber | zero => rfl
    | infinity t | finite t => cases t <;> rfl
  | finite s m e =>
    cases b with
    | notANumber => rfl
    | infinity t => cases t <;> rfl
    | zero => cases s <;> rfl
    | finite t n k =>
      have hswap : (compare k e).then (compare n m)
          = ((compare e k).then (compare m n)).swap := by
        rw [Ordering.swap_then, Int.compare_swap, Nat.compare_swap]
      cases s with
      | positive =>
        cases t with
        | positive => exact congrArg some hswap
        | negative => rfl
      | negative =>
        cases t with
        | positive => rfl
        | negative => exact congrArg (fun o : Ordering => some o.swap) hswap

/-- Only with a NaN nothing is compared. -/
theorem isNone_unpacked_compare (a b : UnpackedFloat) :
    (a.compare b).isNone = (a.isNaN || b.isNaN) := by
  cases a with
  | notANumber => cases b <;> rfl
  | infinity s =>
    cases b with
    | infinity | notANumber => rfl
    | zero | finite => cases s <;> rfl
  | zero s =>
    cases b with
    | notANumber | zero => rfl
    | infinity t | finite t => cases t <;> rfl
  | finite s =>
    cases b with
    | notANumber => rfl
    | infinity t => cases t <;> rfl
    | zero => cases s <;> rfl
    | finite t => cases s <;> cases t <;> rfl

end Unpacked

namespace Value

/-! ### Floats -/

theorem float_beq_iff (f g : Float) :
    (f == g) = true ↔ f.toModel.unpack.compare g.toModel.unpack = some .eq := by
  show (f.toModel.unpack.compare g.toModel.unpack == some .eq) = true ↔ _
  exact beq_iff_eq

theorem float_lt_iff (f g : Float) :
    f < g ↔ f.toModel.unpack.compare g.toModel.unpack = some .lt := by
  show decide ((f.toModel.unpack.compare g.toModel.unpack == some .lt) = true) = true ↔ _
  rw [decide_eq_true_eq, beq_iff_eq]

/-- **The order of floats** is found in three tests, each of which reads it off the unpacked forms. -/
theorem floatOrder?_eq_compare (f g : Float) :
    floatOrder? f g = f.toModel.unpack.compare g.toModel.unpack := by
  have hgt : g < f ↔ f.toModel.unpack.compare g.toModel.unpack = some .gt := by
    rw [float_lt_iff, unpacked_compare_swap]
    cases f.toModel.unpack.compare g.toModel.unpack with
    | none => decide
    | some o => cases o <;> decide
  unfold floatOrder?
  simp only [float_lt_iff f g, float_beq_iff, hgt]
  cases f.toModel.unpack.compare g.toModel.unpack with
  | none => rfl
  | some o => cases o <;> rfl

theorem floatOrder?_swap (f g : Float) :
    floatOrder? g f = (floatOrder? f g).map Ordering.swap := by
  rw [floatOrder?_eq_compare, floatOrder?_eq_compare, unpacked_compare_swap]

/-- Two floats have an order unless one of them is a NaN. -/
theorem isSome_floatOrder?_iff (f g : Float) :
    (floatOrder? f g).isSome = true ↔ f.isNaN = false ∧ g.isNaN = false := by
  have hnone : (floatOrder? f g).isNone = (f.isNaN || g.isNaN) := by
    rw [floatOrder?_eq_compare]
    exact isNone_unpacked_compare _ _
  rw [← Bool.or_eq_false_iff, ← hnone, Option.isNone_eq_false_iff]

/-- Floats that have an order are equal just if it is that of equals. -/
theorem beq_of_floatOrder? {f g : Float} {o : Ordering} (h : floatOrder? f g = some o) :
    (f == g) = (o == .eq) := by
  rw [floatOrder?_eq_compare] at h
  rw [Bool.eq_iff_iff, float_beq_iff, h, Option.some.injEq, beq_iff_eq]

theorem float_beq_comm (f g : Float) : (f == g) = (g == f) := by
  rw [Bool.eq_iff_iff, float_beq_iff, float_beq_iff, unpacked_compare_swap]
  cases g.toModel.unpack.compare f.toModel.unpack with
  | none => decide
  | some o => cases o <;> decide

/-! ### Order -/

/-- The values that have an order: integers, texts, and numbers of either sort none of which is a
    NaN. -/
inductive Comparable : Value → Value → Prop where
  | integers (i j : Int64) : Comparable (.int64 i) (.int64 j)
  | texts (s t : String) : Comparable (.string s) (.string t)
  | numbers {v w : Value} {f g : Float} (hv : v.toFloat? = some f) (hw : w.toFloat? = some g)
      (hf : f.isNaN = false) (hg : g.isNaN = false) : Comparable v w

/-- The ways in which two values are compared: as integers, as texts, as floats, or not at all. -/
inductive ComparedAs : Value → Value → Prop where
  | integers (i j : Int64) : ComparedAs (.int64 i) (.int64 j)
  | texts (s t : String) : ComparedAs (.string s) (.string t)
  | floats {v w : Value} {f g : Float} (hv : v.toFloat? = some f) (hw : w.toFloat? = some g)
      (horder : v.order? w = floatOrder? f g) (hturned : w.order? v = floatOrder? g f)
      (hequals : v.equals w = (f == g)) : ComparedAs v w
  | apart {v w : Value} (hnumbers : v.toFloat? = none ∨ w.toFloat? = none)
      (horder : v.order? w = none) (hturned : w.order? v = none) : ComparedAs v w

theorem comparedAs (v w : Value) : ComparedAs v w := by
  cases v with
  | int64 i =>
    cases w with
    | int64 j => exact .integers i j
    | float64 g => exact .floats rfl rfl rfl rfl rfl
    | _ => exact .apart (.inr rfl) rfl rfl
  | float64 f =>
    cases w with
    | int64 | float64 => exact .floats rfl rfl rfl rfl rfl
    | _ => exact .apart (.inr rfl) rfl rfl
  | string s =>
    cases w with
    | string t => exact .texts s t
    | _ => exact .apart (.inl rfl) rfl rfl
  | _ => cases w <;> exact .apart (.inl rfl) rfl rfl

/-- Two values have an order just if they are two integers, two texts, or two numbers none of which is
    a NaN. -/
theorem isSome_order?_iff (v w : Value) : (v.order? w).isSome = true ↔ v.Comparable w := by
  constructor
  · intro h
    cases comparedAs v w with
    | integers i j => exact .integers i j
    | texts s t => exact .texts s t
    | floats hv hw horder =>
      rw [horder, isSome_floatOrder?_iff] at h
      exact .numbers hv hw h.1 h.2
    | apart _ horder =>
      rw [horder] at h
      cases h
  · intro h
    cases h with
    | integers | texts => rfl
    | numbers hv hw hf hg =>
      cases comparedAs v w with
      | integers | texts => rfl
      | floats hv' hw' horder =>
        cases hv.symm.trans hv'
        cases hw.symm.trans hw'
        rw [horder, isSome_floatOrder?_iff]
        exact ⟨hf, hg⟩
      | apart hnumbers =>
        rcases hnumbers with hnone | hnone
        · cases hv.symm.trans hnone
        · cases hw.symm.trans hnone

/-- **The order turns round** with its operands. -/
theorem order?_swap (v w : Value) : w.order? v = (v.order? w).map Ordering.swap := by
  cases comparedAs v w with
  | integers i j => exact congrArg some (Int.compare_swap _ _).symm
  | texts s t => exact congrArg some Std.OrientedCmp.eq_swap
  | floats _ _ horder hturned => rw [horder, hturned, floatOrder?_swap]
  | apart _ horder hturned =>
    rw [horder, hturned]
    rfl

/-- **Order and equality agree**: of values that have an order, those are equal that it says are. -/
theorem equals_of_order? {v w : Value} {o : Ordering} (h : v.order? w = some o) :
    v.equals w = (o == .eq) := by
  cases comparedAs v w with
  | integers i j =>
    cases h
    show (i == j) = (compare i.toInt j.toInt == .eq)
    rw [Bool.eq_iff_iff, beq_iff_eq, beq_iff_eq, Int.compare_eq_eq, Int64.toInt_inj]
  | texts s t =>
    cases h
    show (s == t) = (compare s t == .eq)
    rw [Bool.eq_iff_iff, beq_iff_eq, beq_iff_eq, Std.compare_eq_iff_eq]
  | floats _ _ horder _ hequals =>
    rw [hequals]
    exact beq_of_floatOrder? (horder.symm.trans h)
  | apart _ horder =>
    rw [horder] at h
    cases h

/-! ### Equality -/

theorem sameFields_comm {b c : Option String} {fs : Fields b}
    (ih : ∀ f ∈ fs.toList, ∀ v : Value, (f.2 == v) = (v == f.2)) (gs : Fields c) :
    sameFields fs gs = sameFields gs fs := by
  induction fs generalizing c with
  | nil => cases gs <;> rfl
  | cons _ m _ v fs ihfs =>
    cases gs with
    | nil => rfl
    | cons n _ w gs =>
      rw [Fields.toList_cons, List.forall_mem_cons] at ih
      have hname : (m == n) = (n == m) := Bool.beq_comm ..
      have hvalue : same v w = same w v := ih.1 w
      rw [sameFields, sameFields, hname, hvalue, ihfs ih.2 gs]

theorem sameItems_comm {as : List Value} (ih : ∀ a ∈ as, ∀ v : Value, (a == v) = (v == a))
    (bs : List Value) : sameItems as bs = sameItems bs as := by
  induction as generalizing bs with
  | nil => cases bs <;> rfl
  | cons a as ihas =>
    cases bs with
    | nil => rfl
    | cons b bs =>
      rw [List.forall_mem_cons] at ih
      have hvalue : same a b = same b a := ih.1 b
      rw [sameItems, sameItems, hvalue, ihas ih.2 bs]

/-- The equality of values does not depend on their order, NaN or not. -/
theorem beq_comm (v w : Value) : (v == w) = (w == v) := by
  induction v generalizing w with
  | null => cases w <;> rfl
  | bool a =>
    cases w with
    | bool b => exact Bool.beq_comm (a := a)
    | _ => rfl
  | int64 i =>
    cases w with
    | int64 j => exact Bool.beq_comm (a := i)
    | _ => rfl
  | float64 f =>
    cases w with
    | float64 g => exact float_beq_comm f g
    | _ => rfl
  | string s =>
    cases w with
    | string t => exact Bool.beq_comm (a := s)
    | _ => rfl
  | record fs ih =>
    cases w with
    | record gs => exact sameFields_comm ih gs
    | _ => rfl
  | list as ih =>
    cases w with
    | list bs => exact sameItems_comm ih bs
    | _ => rfl

/-- **The test `==`** does not depend on the order of its operands. -/
theorem equals_comm (v w : Value) : v.equals w = w.equals v := by
  cases v with
  | int64 i =>
    cases w with
    | float64 g => exact float_beq_comm _ g
    | _ => exact beq_comm (.int64 i) _
  | float64 f =>
    cases w with
    | int64 j => exact float_beq_comm f _
    | _ => exact beq_comm (.float64 f) _
  | _ => cases w <;> exact beq_comm _ _

end Value

end GuardErasure
