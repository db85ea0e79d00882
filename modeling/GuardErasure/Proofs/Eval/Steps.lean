import GuardErasure.Eval.Table
import GuardErasure.Guard.Shape
import GuardErasure.Proofs.Expr.Tree

namespace GuardErasure

/-!
# The operations that an evaluation goes through

To say on which data a change of a tree is harmless, one has to speak of the operations that
its evaluation goes through, each in the scope in which it is evaluated:

* `Region` — what the pass does with the part of the tree in which an operation stands;
* `Step` — an operation on the way, with its region and its scope;
* `Table.steps`, `Table.fnSteps` — all of them, for an expression and for a function at an
  argument; where the evaluation fails, the list is about what would have come next, too;
* `Table.trace` — the same for an evaluation by itself, without a pass;
* `move_mem_trace` — but for their regions, the steps of every pass are in the trace;
* `Step.meetsTwoNulls` — an equality of which both operands come to null.
-/

/-- What the pass does with a part of a tree. -/
inductive Region where
  /-- It visits the part, inside a guard or not. -/
  | visited (inside : Bool)
  /-- It removes a guard, or a choice on null inside one, of which this is the test. -/
  | guardTest
  /-- It does not look at the part, which goes with something else. -/
  | passedOver
deriving DecidableEq

/-- The region of the parts of an operation. -/
def Region.below : Region → Region
  | visited inside => visited inside
  | guardTest | passedOver => passedOver

/-- Does the pass let a choice in this region give way to its second branch? -/
def Shape.yields (s : Shape) (r : Region) (test ifTrue ifFalse : Expr) : Bool :=
  match r with
  | .visited inside => (s.guard? test ifTrue ifFalse).isSome || (inside && test.isNullCheck)
  | _ => false

/-- An operation that an evaluation goes through. -/
structure Step where
  region : Region
  op : BinOp
  left : Expr
  right : Expr
  ty : Ty
  env : Scope

/-- The operation itself. -/
def Step.node (st : Step) : Expr := .binary st.op st.left st.right st.ty

/-- The same operation in another region. -/
def Step.move (r : Region) (st : Step) : Step := { st with region := r }

namespace Table

/-- Does this left operand settle a logical operator? -/
def settles (op : BinOp) : Except Fault Value → Bool
  | .ok (.bool b) => op.family == .logical && b == Value.decisive op
  | _ => false

/-- Does this method, called on this receiver, evaluate an argument? -/
def readsText (m : Method) : Except Fault Value → Bool
  | .ok (.string _) =>
    match Value.TextMethod.ofName? m.name with
    | some (.test _) => true
    | _ => false
  | _ => false

/-- The steps of the branch that a test chooses. -/
def branch (ifTrue ifFalse : List Step) : Except Fault Value → List Step
  | .ok (.bool true) => ifTrue
  | .ok (.bool false) => ifFalse
  | _ => []

/-- The steps at each element of a sequence. -/
def atEach (f : Value → List Step) : Except Fault Value → List Step
  | .ok (.list items) => items.flatMap f
  | _ => []

/-- Is the second argument of a query operator a count? -/
def readsCount : QueryOp → Bool
  | .take | .skip => true
  | _ => false

/-- The steps of a query operator, given those of its sequence, those of its second argument as
    a count, and those of its second argument as a function. -/
def ofQuery (m : Method) (seq count each : List Step) : List Step :=
  match QueryOp.ofName? m.name with
  | none => []
  | some op => if readsCount op then count ++ seq else seq ++ each

mutual

/-- The operations that the evaluation of an expression goes through. -/
def steps (t : Table) (s : Shape) (r : Region) : Expr → Scope → List Step
  | .member owner _ _, env => steps t s r owner env
  | .callOn receiver m args _, env =>
    steps t s r receiver env ++
      match args with
      | [] => []
      | arg :: _ => if readsText m (t.eval receiver env) then steps t s r arg env else []
  | .call m args _, env =>
    match args with
    | [] => []
    | [seq] => if (QueryOp.ofName? m.name).isSome then steps t s r seq env else []
    | seq :: f :: _ =>
      -- the second argument is read as a count or applied to every element, never both
      ofQuery m (steps t s r seq env) (steps t s r f env)
        (atEach (fun v => fnSteps t s r f v env) (t.eval seq env))
  | .unary _ operand _, env => steps t s r operand env
  | .binary op left right ty, env =>
    -- once the left operand settles a logical operator, the right one is not evaluated
    ⟨r, op, left, right, ty, env⟩ ::
      (steps t s r.below left env ++
        if settles op (t.eval left env) then [] else steps t s r.below right env)
  | .cond test ifTrue ifFalse _, env =>
    -- only the second branch of a choice that gives way is visited, and it is inside a guard
    if s.yields r test ifTrue ifFalse then
      steps t s .guardTest test env ++
        branch (steps t s .passedOver ifTrue env) (steps t s (.visited true) ifFalse env)
          (t.eval test env)
    else
      steps t s r test env ++
        branch (steps t s r ifTrue env) (steps t s r ifFalse env) (t.eval test env)
  | .const .., _ | .param .., _ | .lambda .., _ | .root .., _ | .source .., _ | .foreign .., _ =>
    []

/-- The operations that a function goes through at an argument. -/
def fnSteps (t : Table) (s : Shape) (r : Region) : Expr → Value → Scope → List Step
  | .unary .quote operand _, v, env => fnSteps t s r operand v env
  | .lambda [name] body, v, env => steps t s r body (env.bind name v)
  | _, _, _ => []

end

/-- The operations that an evaluation goes through by itself. -/
def trace (t : Table) (e : Expr) (env : Scope) : List Step := t.steps .off .passedOver e env

theorem settles_plain {op : BinOp} (hop : op.family ≠ .logical) (x : Except Fault Value) :
    settles op x = false := by
  unfold settles
  split
  · rw [beq_false_of_ne hop, Bool.false_and]
  · rfl

theorem steps_cond (t : Table) (s : Shape) (r : Region) (test ifTrue ifFalse : Expr) (ty : Ty)
    (env : Scope) :
    t.steps s r (.cond test ifTrue ifFalse ty) env =
      if s.yields r test ifTrue ifFalse then
        t.steps s .guardTest test env ++
          branch (t.steps s .passedOver ifTrue env) (t.steps s (.visited true) ifFalse env)
            (t.eval test env)
      else
        t.steps s r test env ++
          branch (t.steps s r ifTrue env) (t.steps s r ifFalse env) (t.eval test env) := rfl

/-- What holds of all steps of an operation holds of the operation itself, of those of its left
    operand, and of those of its right one as far as that is evaluated. -/
theorem forall_steps_binary {t : Table} {s : Shape} {r : Region} {op : BinOp} {left right : Expr}
    {ty : Ty} {env : Scope} {P : Step → Prop}
    (h : ∀ st ∈ t.steps s r (.binary op left right ty) env, P st) :
    P ⟨r, op, left, right, ty, env⟩ ∧ (∀ st ∈ t.steps s r.below left env, P st)
      ∧ (settles op (t.eval left env) = false → ∀ st ∈ t.steps s r.below right env, P st) := by
  obtain ⟨hself, hparts⟩ := List.forall_mem_cons.mp h
  obtain ⟨hleft, hright⟩ := List.forall_mem_append.mp hparts
  refine ⟨hself, hleft, fun hsettles => ?_⟩
  rw [if_neg (by simp [hsettles])] at hright
  exact hright

/-! ### The trace of any pass -/

theorem map_branch (f : Step → Step) (a b : List Step) (x : Except Fault Value) :
    (branch a b x).map f = branch (a.map f) (b.map f) x := by
  unfold branch
  split <;> rfl

theorem map_atEach (f : Step → Step) (g : Value → List Step) (x : Except Fault Value) :
    (atEach g x).map f = atEach (fun v => (g v).map f) x := by
  unfold atEach
  split
  · exact List.map_flatMap ..
  · rfl

theorem map_ofQuery (f : Step → Step) (m : Method) (seq count each : List Step) :
    (ofQuery m seq count each).map f = ofQuery m (seq.map f) (count.map f) (each.map f) := by
  unfold ofQuery
  split
  · rfl
  · rw [apply_ite (List.map f), List.map_append, List.map_append]

/-- But for their regions, the steps of a pass are those of the evaluation by itself, and so are
    the steps of a function. -/
theorem move_steps_fnSteps (t : Table) (s : Shape) (e : Expr) :
    (∀ r env, (t.steps s r e env).map (Step.move .passedOver) = t.steps .off .passedOver e env)
      ∧ ∀ r v env, (t.fnSteps s r e v env).map (Step.move .passedOver)
        = t.fnSteps .off .passedOver e v env := by
  -- both halves at once, because a function at an argument is evaluated as its body is
  induction e with
  | const | param | root | source | foreign => exact ⟨fun _ _ => rfl, fun _ _ _ => rfl⟩
  | member owner n ty ih => exact ⟨ih.1, fun _ _ _ => rfl⟩
  | lambda params body ih =>
    refine ⟨fun _ _ => rfl, fun r v env => ?_⟩
    match params with
    | [] => rfl
    | [name] => exact ih.1 r _
    | _ :: _ :: _ => rfl
  | unary op operand ty ih =>
    refine ⟨ih.1, fun r v env => ?_⟩
    cases op with
    | quote => exact ih.2 r v env
    | _ => rfl
  | binary op left right ty ihl ihr =>
    refine ⟨fun r env => ?_, fun _ _ _ => rfl⟩
    show Step.move _ _ :: List.map _ (_ ++ _) = _ :: (_ ++ _)
    rw [List.map_append, ihl.1, apply_ite (List.map (Step.move .passedOver)), ihr.1]
    rfl
  | callOn receiver m args ty ihr ih =>
    refine ⟨fun r env => ?_, fun _ _ _ => rfl⟩
    cases args with
    | nil =>
      show List.map _ (_ ++ []) = _ ++ []
      rw [List.map_append, ihr.1]
      rfl
    | cons arg rest =>
      show List.map _ (_ ++ _) = _ ++ _
      rw [List.map_append, ihr.1, apply_ite (List.map (Step.move .passedOver)),
        (ih arg (by simp)).1]
      rfl
  | call m args ty ih =>
    refine ⟨fun r env => ?_, fun _ _ _ => rfl⟩
    cases args with
    | nil => rfl
    | cons seq rest =>
      have hseq := (ih seq (by simp)).1
      cases rest with
      | nil =>
        show List.map _ (ite _ _ _) = ite _ _ _
        rw [apply_ite (List.map (Step.move .passedOver)), hseq]
        rfl
      | cons f rest =>
        obtain ⟨hcount, hfn⟩ := ih f (by simp)
        show List.map _ (ofQuery _ _ _ _) = ofQuery _ _ _ _
        rw [map_ofQuery, map_atEach, hseq, hcount]
        simp only [hfn]
  | cond test ifTrue ifFalse ty iha ihb ihc =>
    refine ⟨fun r env => ?_, fun _ _ _ => rfl⟩
    -- without a pass no choice gives way, so that both branches of the `ite` come to the same
    show List.map _ (ite _ (_ ++ _) (_ ++ _)) = _ ++ _
    rw [apply_ite (List.map (Step.move .passedOver)), List.map_append, List.map_append,
      map_branch, map_branch, iha.1, iha.1, ihb.1, ihb.1, ihc.1, ihc.1]
    exact ite_self _

/-- Every step of a pass is one of the evaluation by itself. -/
theorem move_mem_trace {t : Table} {s : Shape} {r : Region} {e : Expr} {env : Scope} {st : Step}
    (h : st ∈ t.steps s r e env) : st.move .passedOver ∈ t.trace e env := by
  rw [trace, ← (t.move_steps_fnSteps s e).1 r env]
  exact List.mem_map_of_mem h

/-! ### Nulls on the way -/

/-- Does the expression come to null? -/
def isNullAt (t : Table) (e : Expr) (env : Scope) : Bool :=
  match t.eval e env with
  | .ok .null => true
  | _ => false

/-- Does the expression come to `true`? -/
def isTrueAt (t : Table) (e : Expr) (env : Scope) : Bool :=
  match t.eval e env with
  | .ok (.bool true) => true
  | _ => false

theorem isNullAt_eq_true {t : Table} {e : Expr} {env : Scope} :
    t.isNullAt e env = true ↔ t.eval e env = .ok .null := by
  unfold isNullAt
  split
  · next h => exact ⟨fun _ => h, fun _ => rfl⟩
  · next h => exact ⟨fun hf => (nomatch hf), fun hr => absurd hr h⟩

theorem isNullAt_of_eval {t : Table} {e : Expr} {env : Scope} {v : Value}
    (h : t.eval e env = .ok v) : t.isNullAt e env = v.isNull := by
  rw [isNullAt, h]
  cases v <;> rfl

theorem isTrueAt_eq_true {t : Table} {e : Expr} {env : Scope} :
    t.isTrueAt e env = true ↔ t.eval e env = .ok (.bool true) := by
  unfold isTrueAt
  split
  · next h => exact ⟨fun _ => h, fun _ => rfl⟩
  · next h => exact ⟨fun hf => (nomatch hf), fun hr => absurd hr h⟩

end Table

/-- Is this a test `==` or `!=` that meets null on both sides? -/
def Step.meetsTwoNulls (t : Table) (st : Step) : Bool :=
  (st.op == .equal || st.op == .notEqual)
    && (t.isNullAt st.left st.env && t.isNullAt st.right st.env)

theorem Value.equals_null (v : Value) : v.equals .null = v.isNull := by
  cases v <;> rfl

theorem Value.null_equals (v : Value) : Value.equals .null v = v.isNull := by
  cases v <;> rfl

end GuardErasure
