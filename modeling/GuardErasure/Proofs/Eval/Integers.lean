import GuardErasure.Proofs.Eval.Fits

namespace GuardErasure

/-!
# Integer arithmetic

Trees of integers and of the four arithmetic operators and negation have a value in mathematics, and one
in 64 bits.

* `InWord` — the integers that fit into 64 bits;
* `BinOp.integer?`, `Expr.integer?` — arithmetic on integers of any size;
* `Value.Settles` — a computation that is exact, or refused because the integer does not fit, with
  `Value.settles_negate` and `Value.settles_intArithmetic` for the operators;
* `IntegerTree`, `Table.exactOrRefused`, `Table.eval_integerTree` — so it is for whole trees: what is
  refused at any depth is refused for good.
-/

/-- Does the integer fit into 64 bits? -/
def InWord (z : Int) : Prop := Int64.minValue.toInt ≤ z ∧ z ≤ Int64.maxValue.toInt

instance : DecidablePred InWord := fun _ => inferInstanceAs (Decidable (_ ∧ _))

theorem inWord_toInt (i : Int64) : InWord i.toInt := ⟨i.minValue_le_toInt, i.toInt_le⟩

/-- What an arithmetic operator makes of two integers.  Division is toward zero, and by zero there is
    none. -/
def BinOp.integer? : BinOp → Int → Int → Option Int
  | add, a, b => some (a + b)
  | subtract, a, b => some (a - b)
  | multiply, a, b => some (a * b)
  | divide, a, b => if b = 0 then none else some (a.tdiv b)
  | _, _, _ => none

namespace Expr

/-- The integer that a tree stands for in mathematics, if it stands for one. -/
def integer? (env : Scope) : Expr → Option Int
  | const v _ => v.toInt64?.map Int64.toInt
  | param name _ => (env.lookup? name).bind fun v => v.toInt64?.map Int64.toInt
  | unary .negate operand _ => (operand.integer? env).map (- ·)
  | binary op left right _ => do op.integer? (← left.integer? env) (← right.integer? env)
  | _ => none

/-- The tree stands for an integer that fits into 64 bits. -/
def IsWord (env : Scope) (e : Expr) : Prop := ∃ z, e.integer? env = some z ∧ InWord z

end Expr

/-- The trees that are built from integer literals, and from parameters that integers are bound to, by
    negation and the arithmetic operators, whatever types are stored in them. -/
inductive IntegerTree (env : Scope) : Expr → Prop where
  | const (i : Int64) (ty : Ty) : IntegerTree env (.const (.int64 i) ty)
  | param {name : String} {i : Int64} (h : env.lookup? name = some (.int64 i)) (ty : Ty) :
      IntegerTree env (.param name ty)
  | negate {operand : Expr} (h : IntegerTree env operand) (ty : Ty) :
      IntegerTree env (.unary .negate operand ty)
  | binary {op : BinOp} {left right : Expr} (hop : op.family = .arithmetic)
      (hleft : IntegerTree env left) (hright : IntegerTree env right) (ty : Ty) :
      IntegerTree env (.binary op left right ty)

namespace Value

/-- The computation gives just this integer if it fits into 64 bits, and fails with a fault about values
    if it does not, or if there is none. -/
inductive Settles : Option Int → Except Fault Value → Prop where
  | exact (i : Int64) : Settles (some i.toInt) (.ok (.int64 i))
  | refused {z? : Option Int} {f : Fault} (hz : ∀ z, z? = some z → ¬InWord z) (hf : f.kind = .value) :
      Settles z? (.error f)

/-- An integer is put into 64 bits, or refused. -/
theorem settles_ofInt? (z : Int) {f : Fault} (hf : f.kind = .value) :
    Settles (some z) (match ofInt? z with
      | some v => .ok v
      | none => .error f) := by
  unfold ofInt?
  by_cases hz : Int64.minValue.toInt ≤ z ∧ z ≤ Int64.maxValue.toInt
  · -- nothing is lost on the way into 64 bits and back
    have hint : (Int64.ofInt z).toInt = z :=
      Int64.toInt_ofInt_of_le hz.1 (Int.lt_of_le_of_lt hz.2 (by decide))
    have hexact := Settles.exact (Int64.ofInt z)
    rw [hint] at hexact
    rw [if_pos hz]
    exact hexact
  · rw [if_neg hz]
    refine .refused ?_ hf
    rintro _ ⟨⟩
    exact hz

/-- **Negation** is exact or refused. -/
theorem settles_negate (i : Int64) (ty : Ty) :
    Settles (some (-i.toInt)) (applyUnary .negate ty (.int64 i)) :=
  settles_ofInt? (-i.toInt) rfl

/-- **Arithmetic** on two integers is exact or refused. -/
theorem settles_intArithmetic {op : BinOp} (hop : op.family = .arithmetic) (i j : Int64) :
    Settles (op.integer? i.toInt j.toInt) (intArithmetic op i j) := by
  by_cases hzero : op = .divide ∧ j.toInt = 0
  · have hnone : op.integer? i.toInt j.toInt = none := by
      rw [hzero.1]
      exact if_pos hzero.2
    rw [intArithmetic, if_pos hzero, hnone]
    exact .refused (fun z hz => nomatch hz) rfl
  · have hsome : op.integer? i.toInt j.toInt = some (exact op i.toInt j.toInt) := by
      cases op with
      | add | subtract | multiply => rfl
      | divide => exact if_neg fun hj => hzero ⟨rfl, hj⟩
      | _ => cases hop
    rw [intArithmetic, if_neg hzero, hsome]
    exact settles_ofInt? _ rfl

end Value

namespace Table

/-- The evaluation of a tree is exact, and every node of it stands for an integer that fits, or some node
    does not, and the evaluation is refused with a fault about values. -/
inductive ExactOrRefused (t : Table) (env : Scope) (e : Expr) : Prop where
  | exact (i : Int64) (hnodes : ∀ n ∈ e.nodes, n.IsWord env) (hi : e.integer? env = some i.toInt)
      (heval : t.eval e env = .ok (.int64 i)) : ExactOrRefused t env e
  | refused (f : Fault) (hnodes : ¬∀ n ∈ e.nodes, n.IsWord env) (hf : f.kind = .value)
      (heval : t.eval e env = .error f) : ExactOrRefused t env e

namespace ExactOrRefused

variable {t : Table} {env : Scope} {e part : Expr}

/-- If all parts of a node are exact, the node itself decides. -/
theorem node (hparts : ∀ part ∈ e.parts, ∀ n ∈ part.nodes, n.IsWord env)
    (h : Value.Settles (e.integer? env) (t.eval e env)) : ExactOrRefused t env e := by
  generalize hz : e.integer? env = z?, hx : t.eval e env = x at h
  cases h with
  | exact i =>
    have hself : e.IsWord env := ⟨i.toInt, hz, inWord_toInt i⟩
    exact .exact i (Expr.forall_nodes_iff.mpr ⟨hself, hparts⟩) hz hx
  | @refused _ f hnone hf =>
    refine .refused f (fun hnodes => ?_) hf hx
    obtain ⟨z, hself, hword⟩ := (Expr.forall_nodes_iff.mp hnodes).1
    exact hnone z (hz.symm.trans hself) hword

/-- A part that is refused is refused for good. -/
theorem of_part {f : Fault} (hpart : part ∈ e.parts) (hnodes : ¬∀ n ∈ part.nodes, n.IsWord env)
    (hf : f.kind = .value) (heval : t.eval e env = .error f) : ExactOrRefused t env e :=
  .refused f (fun hall => hnodes fun _ hn => hall _ (Expr.mem_nodes_of_part hpart hn)) hf heval

end ExactOrRefused

variable (t : Table) {env : Scope} {e : Expr}

/-- **Trees of integers** are exact or refused, by induction on the tree.  The left operand is evaluated
    first, so that its fault is the one that is given if both operands are refused. -/
theorem exactOrRefused (h : IntegerTree env e) : ExactOrRefused t env e := by
  induction h with
  | const i ty => exact .node (List.forall_mem_nil _) (.exact i)
  | @param name i hi ty =>
    have hinteger : (Expr.param name ty).integer? env = some i.toInt := by
      rw [Expr.integer?, hi]
      rfl
    have heval : t.eval (.param name ty) env = .ok (.int64 i) := by
      rw [eval, hi]
    refine .node (List.forall_mem_nil _) ?_
    rw [hinteger, heval]
    exact .exact i
  | @negate operand _ ty ih =>
    have heval := t.eval_unary env .negate operand ty
    cases ih with
    | refused f hnodes hf hoperand =>
      rw [hoperand] at heval
      exact .of_part (List.mem_singleton_self _) hnodes hf heval
    | exact i hnodes hi hoperand =>
      refine .node (List.forall_mem_singleton.mpr hnodes) ?_
      rw [heval, hoperand, Expr.integer?, hi]
      exact Value.settles_negate i ty
  | @binary op left right hop _ _ ty ihl ihr =>
    have hplain : op.family ≠ .logical := by
      rw [hop]
      decide
    have heval := t.eval_plain env hplain left right ty
    cases ihl with
    | refused f hnodes hf hleft =>
      -- the right operand is not evaluated, whatever it stands for
      rw [hleft] at heval
      exact .of_part List.mem_cons_self hnodes hf heval
    | exact i hlnodes hi hleft =>
      rw [hleft] at heval
      cases ihr with
      | refused f hnodes hf hright =>
        rw [hright] at heval
        exact .of_part (List.mem_cons_of_mem _ (List.mem_singleton_self _)) hnodes hf heval
      | exact j hrnodes hj hright =>
        rw [hright] at heval
        refine .node (List.forall_mem_cons.mpr ⟨hlnodes, List.forall_mem_singleton.mpr hrnodes⟩) ?_
        -- neither operand is a text or a float, so that this is arithmetic on integers
        have harith : Value.applyBinary op (.int64 i) (.int64 j) = Value.intArithmetic op i j := by
          cases op <;> first | rfl | cases hop
        have hinteger : (Expr.binary op left right ty).integer? env
            = op.integer? i.toInt j.toInt := by
          rw [Expr.integer?, hi, hj]
          rfl
        rw [hinteger, heval]
        refine Eq.subst (motive := Value.Settles _) harith.symm ?_
        exact Value.settles_intArithmetic hop i j

/-- **Integer arithmetic is exact or refused.**  The value of a tree of integers is an integer just if
    every tree in it stands for an integer that fits into 64 bits, and then it is the one that the tree
    stands for.  Otherwise the evaluation fails, with a fault about values. -/
theorem eval_integerTree (h : IntegerTree env e) :
    (∀ i : Int64, t.eval e env = .ok (.int64 i)
        ↔ (∀ n ∈ e.nodes, ∃ z, n.integer? env = some z ∧ InWord z)
          ∧ e.integer? env = some i.toInt)
      ∧ ((∀ n ∈ e.nodes, ∃ z, n.integer? env = some z ∧ InWord z) →
        ∃ i : Int64, t.eval e env = .ok (.int64 i))
      ∧ ((¬∀ n ∈ e.nodes, ∃ z, n.integer? env = some z ∧ InWord z) →
        ∃ f, t.eval e env = .error f ∧ f.kind = .value) := by
  cases t.exactOrRefused h with
  | exact i hnodes hi heval =>
    refine ⟨fun j => ⟨fun hj => ?_, fun hj => ?_⟩, fun _ => ⟨i, heval⟩, fun hnot => absurd hnodes hnot⟩
    · cases heval.symm.trans hj
      exact ⟨hnodes, hi⟩
    · have hij : i = j := Int64.toInt_inj.mp (Option.some.inj (hi.symm.trans hj.2))
      rw [heval, hij]
  | refused f hnodes hf heval =>
    refine ⟨fun j => ⟨fun hj => ?_, fun hj => absurd hj.1 hnodes⟩, fun hall => absurd hall hnodes,
      fun _ => ⟨f, heval, hf⟩⟩
    cases heval.symm.trans hj

end Table

namespace Samples

/-- `i - 1 + 1` -/
def downAndUp : Expr :=
  (start.combine .subtract (.ofValue (.int64 1))).combine .add (.ofValue (.int64 1))

/-- `i / -1` -/
def opposite : Expr := start.combine .divide (.ofValue (.int64 (-1)))

/-- `-(i / 2)` -/
def halfOpposite : Expr := (start.combine .divide (.ofValue (.int64 2))).unarySame .negate

/-- The number is the least one that there is. -/
def least : Scope := ⟨[("i", .int64 Int64.minValue)]⟩

end Samples

/-- At the least integer, what goes down and up again stands for an integer that fits, but not so does
    its first step; the opposite does not fit at all, and that of the half does. -/
theorem Table.eval_integerTree_least :
    IntegerTree Samples.least Samples.downAndUp
      ∧ Samples.downAndUp.IsWord Samples.least
      ∧ (∃ f, Samples.noRows.eval Samples.downAndUp Samples.least = .error f ∧ f.kind = .value)
      ∧ IntegerTree Samples.least Samples.opposite
      ∧ (∃ f, Samples.noRows.eval Samples.opposite Samples.least = .error f ∧ f.kind = .value)
      ∧ IntegerTree Samples.least Samples.halfOpposite
      ∧ (∀ n ∈ Samples.halfOpposite.nodes, n.IsWord Samples.least)
      ∧ Samples.noRows.eval Samples.halfOpposite Samples.least = .ok (.int64 4611686018427387904) := by
  have hstart : IntegerTree Samples.least Samples.start := .param rfl _
  have hdownAndUp : IntegerTree Samples.least Samples.downAndUp :=
    .binary rfl (.binary rfl hstart (.const 1 _) _) (.const 1 _) _
  have hopposite : IntegerTree Samples.least Samples.opposite :=
    .binary rfl hstart (.const (-1) _) _
  have hhalf : IntegerTree Samples.least Samples.halfOpposite :=
    .negate (.binary rfl hstart (.const 2 _) _) _
  refine ⟨hdownAndUp, ⟨_, rfl, by decide⟩, ?_, hopposite, ?_, hhalf, ?_⟩
  · refine (eval_integerTree Samples.noRows hdownAndUp).2.2 fun hnodes => ?_
    obtain ⟨z, hz, hword⟩ := hnodes _ (List.mem_cons_of_mem _ List.mem_cons_self)
    cases hz
    exact absurd hword (by decide)
  · refine (eval_integerTree Samples.noRows hopposite).2.2 fun hnodes => ?_
    obtain ⟨z, hz, hword⟩ := hnodes _ List.mem_cons_self
    cases hz
    exact absurd hword (by decide)
  · have hexact := (eval_integerTree Samples.noRows hhalf).1 4611686018427387904
    have heval : Samples.noRows.eval Samples.halfOpposite Samples.least
      = .ok (.int64 4611686018427387904) := rfl
    exact ⟨(hexact.mp heval).1, heval⟩

end GuardErasure
