import GuardErasure.Proofs.Eval.Follow
import GuardErasure.Proofs.Expr.Tree

namespace GuardErasure

/-!
# Values of the type that is announced

In trees of operators on truth values and numbers, nullable or not, the static type of a node tells
what its value is.

* `Value.Fits` — a value is of a type;
* `OperatorTree` — the trees, built by the builders that compute the stored types;
* `Value.Fits.negated`, `Value.Fits.applyBinary`, `Value.Fits.logic`, … — what an operator makes of
  values that fit the types of its operands fits the type that its builder stores;
* `Table.eval_fits` — so it is for whole trees, as soon as the parameters fit.
-/

/-! ### Types -/

/-- Is this the type of truth values, or of numbers of either sort? -/
def Ty.isScalar : Ty → Bool
  | .bool | .int64 | .float64 => true
  | _ => false

theorem Ty.stripped_of_not_isOption {t : Ty} (h : t.isOption = false) : t.stripped = t := by
  cases t with
  | option t => cases h
  | _ => rfl

theorem Ty.orNull_of_isScalar {t : Ty} (h : t.isScalar = true) : t.orNull = .option t := by
  cases t with
  | bool | int64 | float64 => rfl
  | _ => cases h

theorem Ty.stripped_of_isScalar {t : Ty} (h : t.isScalar = true) : t.stripped = t := by
  cases t with
  | bool | int64 | float64 => rfl
  | _ => cases h

namespace BinOp

/-- The type of a result before it is lifted. -/
def baseTy (op : BinOp) (l r : Ty) : Ty :=
  match op.family with
  | .comparison | .logical => .bool
  | .arithmetic => op.arithmeticTy l r

theorem resultTy_eq (op : BinOp) (l r : Ty) :
    op.resultTy l r =
      if op ≠ .equal ∧ op ≠ .notEqual ∧ (l.isOption ∨ r.isOption) then (op.baseTy l r).orNull
      else op.baseTy l r := by
  cases op <;> rfl

section Scalar

variable (op : BinOp) {l r : Ty} (hl : l.stripped.isScalar = true)
  (hr : r.stripped.isScalar = true)
include hl hr

/-- Without a text among the operands the result is a number. -/
theorem arithmeticTy_eq :
    op.arithmeticTy l r =
      if l.stripped = .int64 ∧ r.stripped = .int64 then .int64 else .float64 := by
  have htext : ¬(op = .add ∧ (l.stripped = .string ∨ r.stripped = .string)) := by
    rintro ⟨-, hs | hs⟩
    · rw [hs] at hl
      cases hl
    · rw [hs] at hr
      cases hr
  rw [arithmeticTy, if_neg htext]

theorem isScalar_baseTy : (op.baseTy l r).isScalar = true := by
  have harith : (op.arithmeticTy l r).isScalar = true := by
    rw [arithmeticTy_eq op hl hr]
    split
    · rfl
    · rfl
  unfold baseTy
  split
  · rfl
  · rfl
  · exact harith

/-- A result is of a scalar type again, wrapper aside. -/
theorem isScalar_stripped_resultTy : (op.resultTy l r).stripped.isScalar = true := by
  have hbase : (op.baseTy l r).isScalar = true := isScalar_baseTy op hl hr
  rw [resultTy_eq]
  split
  · rw [Ty.orNull_of_isScalar hbase]
    exact hbase
  · rw [Ty.stripped_of_isScalar hbase]
    exact hbase

end Scalar

end BinOp

/-! ### What operations give -/

namespace Value

variable {u v w : Value}

theorem eq_null_of_isNull (h : v.isNull = true) : v = .null := by
  cases v with
  | null => rfl
  | _ => cases h

/-- What an exact computation gives, if it fits into 64 bits, is an integer. -/
theorem eq_int64_of_ofInt? {i : Int} {f : Fault}
    (hu : (match ofInt? i with
      | some w => .ok w
      | none => .error f) = Except.ok u) : ∃ k, u = .int64 k := by
  unfold ofInt? at hu
  by_cases hi : Int64.minValue.toInt ≤ i ∧ i ≤ Int64.maxValue.toInt
  · rw [if_pos hi] at hu
    cases hu
    exact ⟨_, rfl⟩
  · rw [if_neg hi] at hu
    cases hu

/-- Arithmetic on integers gives an integer. -/
theorem eq_int64_of_intArithmetic {op : BinOp} {i j : Int64}
    (hu : intArithmetic op i j = .ok u) : ∃ k, u = .int64 k := by
  unfold intArithmetic at hu
  split at hu
  · cases hu
  · exact eq_int64_of_ofInt? hu

/-- Any other arithmetic without texts gives a float. -/
theorem eq_float64_of_arithmetic {op : BinOp} (hint : ¬(v.kind = .int64 ∧ w.kind = .int64))
    (hv : v.kind ≠ .string) (hw : w.kind ≠ .string) (hu : arithmetic op v w = .ok u) :
    ∃ f, u = .float64 f := by
  have htext : ¬(op = .add ∧ (v.kind = .string ∨ w.kind = .string)) := by
    rintro ⟨-, hs | hs⟩
    · exact hv hs
    · exact hw hs
  unfold arithmetic at hu
  split at hu
  · exact absurd ⟨rfl, rfl⟩ hint
  · rw [if_neg htext] at hu
    split at hu
    · cases hu
      exact ⟨_, rfl⟩
    · cases hu

/-- An operator that is no equality is null as soon as one operand is, and else compares or
    computes. -/
theorem applyBinary_eq {op : BinOp} (hop : op.family ≠ .logical)
    (heq : ¬(op = .equal ∨ op = .notEqual)) (v w : Value) :
    Value.applyBinary op v w =
      if v.isNull || w.isNull then .ok .null
      else if op.family = .comparison then v.order w >>= fun o => .ok (.bool (holdsOf op o))
      else Value.arithmetic op v w := by
  cases op with
  | equal => exact absurd (.inl rfl) heq
  | notEqual => exact absurd (.inr rfl) heq
  | and | or => exact absurd rfl hop
  | _ => rfl

/-- Truths joined are unknown only if one of them is. -/
theorem joinTruth_eq_none {d : Bool} {a b : Option Bool} (h : joinTruth d a b = none) :
    a = none ∨ b = none := by
  by_cases hdecided : a = some d ∨ b = some d
  · rw [joinTruth, if_pos hdecided] at h
    cases h
  · by_cases hnone : a.isNone = true ∨ b.isNone = true
    · exact hnone.imp Option.isNone_iff_eq_none.mp Option.isNone_iff_eq_none.mp
    · rw [joinTruth, if_neg hdecided, if_neg hnone] at h
      cases h

/-! ### Values and types -/

/-- A truth value or a number is of its own type, and of the wrapper around it, as null is. -/
inductive Fits : Value → Ty → Prop where
  | bool (b : Bool) : Fits (.bool b) .bool
  | int64 (i : Int64) : Fits (.int64 i) .int64
  | float64 (f : Float) : Fits (.float64 f) .float64
  | null (t : Ty) : Fits .null (.option t)
  | wrapped {v : Value} {t : Ty} (h : Fits v t) : Fits v (.option t)

namespace Fits

variable {t l r : Ty}

/-- Only a nullable wrapper admits null. -/
theorem isOption_of_isNull (h : v.Fits t) (hv : v.isNull = true) : t.isOption = true := by
  cases h with
  | null | wrapped => rfl
  | _ => cases hv

theorem null_of_isOption (ht : t.isOption = true) : Fits .null t := by
  cases t with
  | option t => exact .null t
  | _ => cases ht

theorem not_isNull (h : v.Fits t) (ht : t.isOption = false) : v.isNull = false := by
  cases hv : v.isNull with
  | false => rfl
  | true => exact (ht.symm.trans (h.isOption_of_isNull hv)).symm

/-- What is not null fits the type inside the wrapper. -/
theorem stripped (h : v.Fits t) (hv : v.isNull = false) : v.Fits t.stripped := by
  cases h with
  | bool b => exact .bool b
  | int64 i => exact .int64 i
  | float64 f => exact .float64 f
  | null t => cases hv
  | wrapped h => exact h

theorem of_stripped (h : v.Fits t.stripped) : v.Fits t := by
  cases t with
  | option t => exact .wrapped h
  | _ => exact h

theorem orNull (h : v.Fits t) : v.Fits t.orNull := by
  unfold Ty.orNull
  split
  · exact h
  · exact .wrapped h

/-! ### Unary operators and members -/

/-- What negation of either sort makes of a value is of the type of the value. -/
theorem negated {op : UnOp} {s : Ty} (hop : op = .not ∨ op = .negate) (h : v.Fits t)
    (hu : applyUnary op s v = .ok u) : u.Fits t := by
  induction h with
  | null t =>
    cases hu
    exact .null t
  | wrapped _ ih => exact .wrapped (ih hu)
  | bool b =>
    rcases hop with rfl | rfl
    · cases hu
      exact .bool _
    · cases hu
  | int64 i =>
    rcases hop with rfl | rfl
    · cases hu
    · obtain ⟨k, rfl⟩ := eq_int64_of_ofInt? hu
      exact .int64 k
  | float64 f =>
    rcases hop with rfl | rfl
    · cases hu
    · cases hu
      exact .float64 _

/-- A conversion that only wraps leaves the value as it is. -/
theorem converted_wrapped (h : v.Fits t) (ht : t.isOption = false)
    (hu : applyUnary .convert (.option t) v = .ok u) : u.Fits (.option t) := by
  cases h with
  | bool b =>
    cases hu
    exact .wrapped (.bool b)
  | int64 i =>
    cases hu
    exact .wrapped (.int64 i)
  | float64 f =>
    cases hu
    exact .wrapped (.float64 f)
  | null | wrapped => cases ht

/-- A conversion of integers to floats that keeps null where it may be. -/
theorem converted_widened {s : Ty} (h : v.Fits t) (ht : t.stripped = .int64)
    (hs : s.stripped = .float64) (hnull : t.isOption = true → s.isOption = true)
    (hu : applyUnary .convert s v = .ok u) : u.Fits s := by
  cases hv : v.isNull with
  | true =>
    rw [eq_null_of_isNull hv] at hu
    cases hu
    exact null_of_isOption (hnull (h.isOption_of_isNull hv))
  | false =>
    have hint : v.Fits .int64 := ht ▸ h.stripped hv
    cases hint with
    | int64 i =>
      have hfloat : applyUnary .convert s (.int64 i) = .ok (.float64 (Float.ofInt i.toInt)) :=
        congrArg Except.ok (if_pos hs)
      rw [hfloat] at hu
      cases hu
      exact of_stripped (hs ▸ .float64 _)

/-- The value of a wrapper is read only where there is one. -/
theorem readMember_wrappedValue {owner : Expr} (h : v.Fits t)
    (hu : readMember owner .wrappedValue v = .ok u) : u.Fits t.stripped := by
  cases hv : v.isNull with
  | true =>
    rw [eq_null_of_isNull hv] at hu
    cases hu
  | false =>
    have huv : readMember owner .wrappedValue v = .ok v := by
      cases v with
      | null => cases hv
      | _ => rfl
    rw [huv] at hu
    cases hu
    exact h.stripped hv

/-! ### Binary operators -/

/-- A value of a scalar type is of the kind of the type, and of no other. -/
theorem kind_eq_int64_iff (h : v.Fits t) (ht : t.isScalar = true) :
    v.kind = .int64 ↔ t = .int64 := by
  cases h with
  | bool | int64 | float64 => simp [kind]
  | null | wrapped => cases ht

theorem kind_ne_string (h : v.Fits t) : v.kind ≠ .string := by
  induction h with
  | wrapped _ ih => exact ih
  | _ => simp [kind]

/-- What fits the type of a result before it is lifted fits the lifted one. -/
theorem resultTy {op : BinOp} (h : v.Fits (op.baseTy l r)) : v.Fits (op.resultTy l r) := by
  rw [BinOp.resultTy_eq]
  split
  · exact h.orNull
  · exact h

section Scalar

variable {op : BinOp} (hl : l.stripped.isScalar = true) (hr : r.stripped.isScalar = true)
include hl hr

/-- A null operand lifts every operator that can be null. -/
theorem null_resultTy (hop : op ≠ .equal ∧ op ≠ .notEqual)
    (hopt : l.isOption = true ∨ r.isOption = true) : Value.null.Fits (op.resultTy l r) := by
  rw [BinOp.resultTy_eq, if_pos ⟨hop.1, hop.2, hopt⟩,
    Ty.orNull_of_isScalar (BinOp.isScalar_baseTy op hl hr)]
  exact .null _

/-- **Arithmetic** on values that fit is of the type that is computed for it. -/
theorem arithmetic (hv : v.Fits l.stripped) (hw : w.Fits r.stripped)
    (hu : arithmetic op v w = .ok u) : u.Fits (op.arithmeticTy l r) := by
  rw [BinOp.arithmeticTy_eq op hl hr]
  by_cases hint : l.stripped = .int64 ∧ r.stripped = .int64
  · rw [if_pos hint]
    rw [hint.1] at hv
    rw [hint.2] at hw
    cases hv with
    | int64 i =>
      cases hw with
      | int64 j =>
        obtain ⟨k, rfl⟩ := eq_int64_of_intArithmetic hu
        exact .int64 k
  · have hkinds : ¬(v.kind = .int64 ∧ w.kind = .int64) := by
      rw [hv.kind_eq_int64_iff hl, hw.kind_eq_int64_iff hr]
      exact hint
    obtain ⟨f, rfl⟩ := eq_float64_of_arithmetic hkinds hv.kind_ne_string hw.kind_ne_string hu
    rw [if_neg hint]
    exact .float64 f

/-- **Operators but the logical ones** on values that fit. -/
theorem applyBinary (hop : op.family ≠ .logical) (hv : v.Fits l) (hw : w.Fits r)
    (hu : applyBinary op v w = .ok u) : u.Fits (op.resultTy l r) := by
  by_cases heq : op = .equal ∨ op = .notEqual
  · -- an equality is a truth value whatever it compares
    apply resultTy
    rcases heq with rfl | rfl
    · cases hu
      exact .bool _
    · cases hu
      exact .bool _
  · rw [applyBinary_eq hop heq] at hu
    by_cases hnull : (v.isNull || w.isNull) = true
    · rw [if_pos hnull] at hu
      cases hu
      have hopt : l.isOption = true ∨ r.isOption = true :=
        (Bool.or_eq_true_iff.mp hnull).imp hv.isOption_of_isNull hw.isOption_of_isNull
      exact null_resultTy hl hr (not_or.mp heq) hopt
    · rw [if_neg hnull] at hu
      apply resultTy
      by_cases hcomp : op.family = .comparison
      · rw [if_pos hcomp] at hu
        obtain ⟨o, _, hu⟩ := bind_eq_ok.mp hu
        cases hu
        rw [BinOp.baseTy, hcomp]
        exact .bool _
      · rw [if_neg hcomp] at hu
        rw [Bool.not_eq_true, Bool.or_eq_false_iff] at hnull
        have harith : op.baseTy l r = op.arithmeticTy l r := by
          cases op <;> first | rfl | exact absurd rfl hcomp | exact absurd rfl hop
        rw [harith]
        exact arithmetic hl hr (hv.stripped hnull.1) (hw.stripped hnull.2) hu

/-- **Logical operators** on values that fit, the right one as far as it is evaluated. -/
theorem logic (hop : op.family = .logical) {right : Except Fault Value} (hv : v.Fits l)
    (hw : ∀ w, right = .ok w → w.Fits r) (hu : Table.logic op right v = .ok u) :
    u.Fits (op.resultTy l r) := by
  have hbool : ∀ b, (Value.bool b).Fits (op.resultTy l r) := by
    intro b
    apply resultTy
    rw [BinOp.baseTy, hop]
    exact .bool b
  obtain ⟨a, ha, hu⟩ := bind_eq_ok.mp hu
  by_cases hd : a = some (decisive op)
  · rw [if_pos hd] at hu
    cases hu
    exact hbool _
  · rw [if_neg hd] at hu
    obtain ⟨w, hright, hu⟩ := bind_eq_ok.mp hu
    obtain ⟨b, hb, hu⟩ := bind_eq_ok.mp hu
    cases hu
    cases hjoin : joinTruth (decisive op) a b with
    | some c => exact hbool c
    | none =>
      have hopt : l.isOption = true ∨ r.isOption = true := by
        rcases joinTruth_eq_none hjoin with rfl | rfl
        · exact .inl (hv.isOption_of_isNull (congrArg isNull (eq_ofTruth ha)))
        · exact .inr ((hw w hright).isOption_of_isNull (congrArg isNull (eq_ofTruth hb)))
      have hne : op ≠ .equal ∧ op ≠ .notEqual := by
        constructor
        · rintro rfl
          cases hop
        · rintro rfl
          cases hop
      exact null_resultTy hl hr hne hopt

end Scalar

end Fits

end Value

/-! ### Trees of operators -/

/-- The trees of operators on truth values and numbers, each node with the type that its builder
    stores. -/
inductive OperatorTree : Expr → Prop where
  /-- A literal fits its type, so that null is one of nullable types only. -/
  | const {v : Value} {ty : Ty} (hty : ty.stripped.isScalar = true) (hv : v.Fits ty) :
      OperatorTree (.const v ty)
  | param (name : String) {ty : Ty} (hty : ty.stripped.isScalar = true) :
      OperatorTree (.param name ty)
  | combine (op : BinOp) {left right : Expr} (hleft : OperatorTree left)
      (hright : OperatorTree right) : OperatorTree (left.combine op right)
  | not {e : Expr} (h : OperatorTree e) : OperatorTree (e.unarySame .not)
  | negate {e : Expr} (h : OperatorTree e) : OperatorTree (e.unarySame .negate)
  | readValue {e : Expr} (h : OperatorTree e) (hty : e.ty.isOption = true) :
      OperatorTree e.readValue
  | isPresent {e : Expr} (h : OperatorTree e) : OperatorTree e.isPresent
  /-- A conversion to the nullable wrapper. -/
  | wrap {e : Expr} (h : OperatorTree e) (hty : e.ty.isOption = false) :
      OperatorTree (e.convertTo (.option e.ty))
  /-- A conversion from integers to floats; a nullable operand stays nullable. -/
  | widen {e : Expr} {ty : Ty} (h : OperatorTree e) (hfrom : e.ty.stripped = .int64)
      (hto : ty.stripped = .float64) (hnull : e.ty.isOption = true → ty.isOption = true) :
      OperatorTree (e.convertTo ty)
  | choose {test ifTrue ifFalse : Expr} (htest : OperatorTree test) (htrue : OperatorTree ifTrue)
      (hfalse : OperatorTree ifFalse) (hty : ifTrue.ty = ifFalse.ty) :
      OperatorTree (.choose test ifTrue ifFalse)

/-- The types in a tree of operators. -/
theorem OperatorTree.isScalar_stripped {e : Expr} (h : OperatorTree e) :
    e.ty.stripped.isScalar = true := by
  induction h with
  | const hty => exact hty
  | param _ hty => exact hty
  | combine op _ _ ihl ihr => exact BinOp.isScalar_stripped_resultTy op ihl ihr
  | not _ ih => exact ih
  | negate _ ih => exact ih
  | @readValue e _ _ ih =>
    show e.ty.stripped.stripped.isScalar = true
    rw [Ty.stripped_of_isScalar ih]
    exact ih
  | isPresent => rfl
  | @wrap e _ hty ih =>
    rw [Ty.stripped_of_not_isOption hty] at ih
    exact ih
  | @widen e ty _ _ hto =>
    show ty.stripped.isScalar = true
    rw [hto]
    rfl
  | choose _ _ _ _ _ _ ih => exact ih

/-- Whatever the parameters of an expression are bound to fits their types. -/
def Scope.Fits (env : Scope) (e : Expr) : Prop :=
  ∀ name ty, .param name ty ∈ e.nodes → ∀ v, env.lookup? name = some v → v.Fits ty

theorem Scope.Fits.part {env : Scope} {e part : Expr} (h : env.Fits e) (hpart : part ∈ e.parts) :
    env.Fits part :=
  fun name ty hn => h name ty (Expr.mem_nodes_of_part hpart hn)

namespace Table

variable {t : Table} {env : Scope} {v : Value}

/-- The value of a tree of operators is of the type of the tree. -/
theorem fits_of_eval {e : Expr} (h : OperatorTree e) (henv : env.Fits e)
    (hv : t.eval e env = .ok v) : v.Fits e.ty := by
  -- by induction on the tree, with one lemma above for each operator
  induction h generalizing v with
  | const hty hfits =>
    cases hv
    exact hfits
  | @param name ty hty =>
    have heval : t.eval (.param name ty) env = match env.lookup? name with
        | some w => .ok w
        | none => .error (.unbound name) := rfl
    rw [heval] at hv
    cases hlookup : env.lookup? name with
    | none =>
      rw [hlookup] at hv
      cases hv
    | some w =>
      rw [hlookup] at hv
      cases hv
      exact henv name ty (List.mem_singleton_self _) _ hlookup
  | @combine op left right hleft hright ihl ihr =>
    have hl : left.ty.stripped.isScalar = true := hleft.isScalar_stripped
    have hr : right.ty.stripped.isScalar = true := hright.isScalar_stripped
    have hleft : env.Fits left := henv.part List.mem_cons_self
    have hright : env.Fits right := henv.part (List.mem_cons_of_mem _ List.mem_cons_self)
    by_cases hop : op.family = .logical
    · obtain ⟨a, ha, hu⟩ := bind_eq_ok.mp ((t.eval_logical env hop _ _ _).symm.trans hv)
      exact .logic hl hr hop (ihl hleft ha) (fun _ hb => ihr hright hb) hu
    · obtain ⟨a, ha, hu⟩ := bind_eq_ok.mp ((t.eval_plain env hop _ _ _).symm.trans hv)
      obtain ⟨b, hb, hu⟩ := bind_eq_ok.mp hu
      exact .applyBinary hl hr hop (ihl hleft ha) (ihr hright hb) hu
  | not _ ih =>
    obtain ⟨a, ha, hu⟩ := bind_eq_ok.mp hv
    exact (ih (henv.part List.mem_cons_self) ha).negated (.inl rfl) hu
  | negate _ ih =>
    obtain ⟨a, ha, hu⟩ := bind_eq_ok.mp hv
    exact (ih (henv.part List.mem_cons_self) ha).negated (.inr rfl) hu
  | readValue _ _ ih =>
    obtain ⟨a, ha, hu⟩ := bind_eq_ok.mp hv
    exact (ih (henv.part List.mem_cons_self) ha).readMember_wrappedValue hu
  | isPresent _ ih =>
    obtain ⟨a, ha, hu⟩ := bind_eq_ok.mp hv
    cases hu
    exact .bool _
  | wrap _ hty ih =>
    obtain ⟨a, ha, hu⟩ := bind_eq_ok.mp hv
    exact (ih (henv.part List.mem_cons_self) ha).converted_wrapped hty hu
  | widen _ hfrom hto hnull ih =>
    obtain ⟨a, ha, hu⟩ := bind_eq_ok.mp hv
    exact (ih (henv.part List.mem_cons_self) ha).converted_widened hfrom hto hnull hu
  | @choose test ifTrue ifFalse _ _ _ hty _ iht ihf =>
    have htrue : env.Fits ifTrue := henv.part (List.mem_cons_of_mem _ List.mem_cons_self)
    have hfalse : env.Fits ifFalse :=
      henv.part (List.mem_cons_of_mem _ (List.mem_cons_of_mem _ List.mem_cons_self))
    obtain ⟨a, ha, hu⟩ := bind_eq_ok.mp ((t.eval_cond env _ _ _ _).symm.trans hv)
    cases a with
    | bool b =>
      cases b with
      | true =>
        -- the type is that of the second branch, which is that of the first
        have hfits : v.Fits ifTrue.ty := iht htrue hu
        rw [hty] at hfits
        exact hfits
      | false => exact ihf hfalse hu
    | _ => cases hu

/-- **Static types are sound** for trees of operators on truth values and numbers.  Where the
    parameters fit their types, the value fits the type of the tree: it is of the kind that the
    type announces, and it is null only if the type is nullable. -/
theorem eval_fits (t : Table) {e : Expr} (h : OperatorTree e) {env : Scope} (henv : env.Fits e)
    {v : Value} (hv : t.eval e env = .ok v) :
    v.Fits e.ty ∧ (e.ty.isOption = false → v.isNull = false) := by
  have hfits : v.Fits e.ty := fits_of_eval h henv hv
  exact ⟨hfits, hfits.not_isNull⟩

end Table

namespace Samples

/-- `n`, a number that may be missing. -/
def found : Expr := .param "n" (.option .int64)

/-- `i` -/
def start : Expr := .param "i" .int64

/-- `n.HasValue ? n.Value + i : -i` -/
def reached : Expr :=
  .choose found.isPresent (found.readValue.combine .add start) (start.unarySame .negate)

/-- `(n.HasValue ? n.Value + i : -i) as float64 < limit`, where the limit may be missing. -/
def belowLimit : Expr :=
  (reached.convertTo .float64).combine .less (.param "limit" (.option .float64))

/-- Both numbers are there, but the limit is not. -/
def withoutLimit : Scope := ⟨[("n", .int64 3), ("i", .int64 4), ("limit", .null)]⟩

/-- No rows at all. -/
def noRows : Table := ⟨"numbers", []⟩

end Samples

/-- A sum that is a number, and a comparison with what is missing, which is null. -/
theorem Table.eval_fits_belowLimit :
    OperatorTree Samples.belowLimit ∧ Samples.withoutLimit.Fits Samples.belowLimit
      ∧ (∃ v, Samples.noRows.eval Samples.reached Samples.withoutLimit = .ok v ∧ v.Fits .int64
        ∧ v.isNull = false)
      ∧ Samples.noRows.eval Samples.belowLimit Samples.withoutLimit = .ok .null
      ∧ Value.null.Fits (.option .bool) := by
  have hreached : OperatorTree Samples.reached :=
    .choose (.isPresent (.param "n" rfl))
      (.combine .add (.readValue (.param "n" rfl) rfl) (.param "i" rfl))
      (.negate (.param "i" rfl)) rfl
  have hbelow : OperatorTree Samples.belowLimit :=
    .combine .less (.widen hreached rfl rfl (fun h => nomatch h)) (.param "limit" rfl)
  have hscope : Samples.withoutLimit.Fits Samples.belowLimit := by
    intro name ty hn w hw
    have hparams : (name = "n" ∧ ty = .option .int64) ∨ (name = "i" ∧ ty = .int64)
        ∨ (name = "limit" ∧ ty = .option .float64) := by
      simpa [Samples.belowLimit, Samples.reached, Samples.found, Samples.start, Expr.combine,
        Expr.convertTo, Expr.choose, Expr.isPresent, Expr.readValue, Expr.unarySame,
        Expr.nodes] using hn
    rcases hparams with ⟨rfl, rfl⟩ | ⟨rfl, rfl⟩ | ⟨rfl, rfl⟩
    · cases hw
      exact .wrapped (.int64 3)
    · cases hw
      exact .int64 4
    · cases hw
      exact .null .float64
  have hpart : Samples.withoutLimit.Fits Samples.reached :=
    (hscope.part List.mem_cons_self).part List.mem_cons_self
  have hsum : (Value.int64 7).Fits .int64 ∧ (Ty.int64.isOption = false → _) :=
    eval_fits Samples.noRows hreached hpart rfl
  have hnull := eval_fits Samples.noRows hbelow hscope (v := .null) rfl
  exact ⟨hbelow, hscope, ⟨_, rfl, hsum.1, hsum.2 rfl⟩, rfl, hnull.1⟩

end GuardErasure
