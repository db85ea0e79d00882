import GuardErasure.Expr.Same
import GuardErasure.Proofs.Expr.Tree
import GuardErasure.Proofs.Value.Tree

namespace GuardErasure

/-!
# The very same tree

The equality that guards are told by is that of the language, where a NaN differs from itself.
Whether a node has changed is another question, and about the trees themselves:

* `Value.identical`, `Expr.identical` — the comparison of two values, and of two expressions, down to
  the bits of the floats in them;
* `Value.identical_iff`, `Expr.identical_iff` — what is identical is one and the same, so that
  equality of either can be decided.
-/

namespace Value

mutual

/-- Is this the very same value?  Floats are compared as what they are and not as numbers. -/
def identical : Value → Value → Bool
  | null, null => true
  | bool a, bool b => a == b
  | int64 a, int64 b => a == b
  | float64 a, float64 b => decide (a = b)
  | string a, string b => a == b
  | record as, record bs => identicalFields as bs
  | list as, list bs => identicalItems as bs
  | _, _ => false

/-- Are these the very same fields, in the same order? -/
def identicalFields {b c : Option String} : Fields b → Fields c → Bool
  | .nil, .nil => true
  | .cons m _ a as, .cons n _ b bs => m == n && identical a b && identicalFields as bs
  | _, _ => false

/-- Are these the very same items, in the same order? -/
def identicalItems : List Value → List Value → Bool
  | [], [] => true
  | a :: as, b :: bs => identical a b && identicalItems as bs
  | _, _ => false

end

theorem identicalFields_iff {b c : Option String} {as : Fields b}
    (h : ∀ a ∈ as.toList, ∀ v, identical a.2 v = true ↔ a.2 = v) (bs : Fields c) :
    identicalFields as bs = true ↔ as.toList = bs.toList := by
  induction as generalizing c with
  | nil => cases bs <;> simp [identicalFields]
  | cons _ m _ a as ih =>
    obtain ⟨ha, has⟩ := List.forall_mem_cons.mp h
    cases bs with
    | nil => simp [identicalFields]
    | cons n _ v bs => simp [identicalFields, ha, ih has]

theorem identicalItems_iff {as : List Value} (h : ∀ a ∈ as, ∀ b, identical a b = true ↔ a = b)
    (bs : List Value) : identicalItems as bs = true ↔ as = bs := by
  induction as generalizing bs with
  | nil => cases bs <;> simp [identicalItems]
  | cons a as ih =>
    obtain ⟨ha, has⟩ := List.forall_mem_cons.mp h
    cases bs with
    | nil => simp [identicalItems]
    | cons b bs => simp [identicalItems, ha, ih has]

/-- Identical values are the same. -/
theorem identical_iff (v w : Value) : v.identical w = true ↔ v = w := by
  induction v generalizing w with
  | record fields ih => cases w <;> simp [identical, identicalFields_iff ih, Fields.toList_inj]
  | list items ih => cases w <;> simp [identical, identicalItems_iff ih]
  | _ => cases w <;> simp [identical]

instance : DecidableEq Value := fun v w => decidable_of_iff _ (identical_iff v w)

end Value

namespace Expr

mutual

/-- Is this the very same tree? -/
def identical : Expr → Expr → Bool
  | const v t, const w u => decide (v = w) && t == u
  | param m t, param n u => m == n && t == u
  | member a m t, member b n u => identical a b && m == n && t == u
  | callOn a m as t, callOn b n bs u => identical a b && m == n && identicalAll as bs && t == u
  | call m as t, call n bs u => m == n && identicalAll as bs && t == u
  | unary o a t, unary p b u => o == p && identical a b && t == u
  | binary o a b t, binary p c d u => o == p && identical a c && identical b d && t == u
  | cond a b c t, cond d e f u => identical a d && identical b e && identical c f && t == u
  | lambda ps a, lambda qs b => ps == qs && identical a b
  | root t, root u => t == u
  | source m t, source n u => m == n && t == u
  | foreign l t, foreign k u => l == k && t == u
  | _, _ => false

/-- Are these the very same trees, one by one? -/
def identicalAll : List Expr → List Expr → Bool
  | [], [] => true
  | a :: as, b :: bs => identical a b && identicalAll as bs
  | _, _ => false

end

theorem identicalAll_iff {as : List Expr} (h : ∀ a ∈ as, ∀ b, identical a b = true ↔ a = b)
    (bs : List Expr) : identicalAll as bs = true ↔ as = bs := by
  induction as generalizing bs with
  | nil => cases bs <;> simp [identicalAll]
  | cons a as ih =>
    obtain ⟨ha, has⟩ := List.forall_mem_cons.mp h
    cases bs with
    | nil => simp [identicalAll]
    | cons b bs => simp [identicalAll, ha, ih has]

/-- **Identical trees are the same.** -/
theorem identical_iff (a b : Expr) : a.identical b = true ↔ a = b := by
  induction a generalizing b with
  | member owner n t ih => cases b <;> simp [identical, ih, and_assoc]
  | unary op operand t ih => cases b <;> simp [identical, ih, and_assoc]
  | lambda params body ih => cases b <;> simp [identical, ih]
  | binary op left right t ihl ihr => cases b <;> simp [identical, ihl, ihr, and_assoc]
  | cond test ifTrue ifFalse t iha ihb ihc =>
    cases b <;> simp [identical, iha, ihb, ihc, and_assoc]
  | call m args t ih => cases b <;> simp [identical, identicalAll_iff ih, and_assoc]
  | callOn receiver m args t ihr ih =>
    cases b <;> simp [identical, ihr, identicalAll_iff ih, and_assoc]
  | _ => cases b <;> simp [identical]

instance : DecidableEq Expr := fun a b => decidable_of_iff _ (identical_iff a b)

end Expr

end GuardErasure
