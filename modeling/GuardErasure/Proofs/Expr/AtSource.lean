import GuardErasure.Proofs.Expr.Tree
import GuardErasure.Expr.Same

namespace GuardErasure.Expr

/-!
# Roots become sources

A source over the elements of a root has the type of the root.  So nothing but leaves changes if every
root becomes a source of some name: all types stay, the stored ones and those that follow.

* `atSource` — the tree with a source of one name for every root;
* `ty_atSource`, `nullChecked?_atSource` and the like — what is asked of a tree has the same answer;
* `Awaits` — a tree whose roots are all over the elements of a source that is not in it, and
  `beq_atSource`: two such trees are equal exactly if they were before.
-/

mutual

/-- The tree with a source of this name, over the same elements, for every root. -/
def atSource (name : String) : Expr → Expr
  | member owner n t => member (atSource name owner) n t
  | callOn receiver m args t => callOn (atSource name receiver) m (atSourceAll name args) t
  | call m args t => call m (atSourceAll name args) t
  | unary op operand t => unary op (atSource name operand) t
  | binary op left right t => binary op (atSource name left) (atSource name right) t
  | cond test ifTrue ifFalse t =>
    cond (atSource name test) (atSource name ifTrue) (atSource name ifFalse) t
  | lambda params body => lambda params (atSource name body)
  | root t => source name t
  | e => e

/-- The same for several trees, one by one. -/
def atSourceAll (name : String) : List Expr → List Expr
  | [] => []
  | e :: es => atSource name e :: atSourceAll name es

end

variable {name : String}

theorem atSourceAll_eq_map (es : List Expr) : atSourceAll name es = es.map (atSource name) := by
  induction es with
  | nil => rfl
  | cons e es ih => rw [atSourceAll, ih, List.map_cons]

theorem atSource_call (m : Method) (args : List Expr) (t : Ty) :
    (call m args t).atSource name = call m (args.map (atSource name)) t := by
  rw [atSource, atSourceAll_eq_map]

theorem atSource_callOn (receiver : Expr) (m : Method) (args : List Expr) (t : Ty) :
    (callOn receiver m args t).atSource name
      = callOn (receiver.atSource name) m (args.map (atSource name)) t := by
  rw [atSource, atSourceAll_eq_map]

/-! ### What is asked of a tree -/

/-- A source over the elements of a root is of the type of the root. -/
@[simp] theorem ty_atSource (e : Expr) : (e.atSource name).ty = e.ty := by
  induction e with
  | lambda params body ih => exact ih
  | _ => rfl

theorem isNullLiteral_atSource (e : Expr) :
    (e.atSource name).isNullLiteral = e.isNullLiteral := by
  cases e <;> rfl

theorem isBoolLiteral_atSource (b : Bool) (e : Expr) :
    (e.atSource name).isBoolLiteral b = e.isBoolLiteral b := by
  cases e <;> rfl

theorem nullChecked?_atSource (e : Expr) :
    (e.atSource name).nullChecked? = e.nullChecked?.map (atSource name) := by
  cases e with
  | binary op left right t =>
    cases op with
    | equal =>
      show (if (right.atSource name).isNullLiteral then _ else _) = Option.map _ (if _ then _ else _)
      rw [isNullLiteral_atSource]
      cases right.isNullLiteral <;> rfl
    | _ => rfl
  | _ => rfl

theorem isNullCheck_atSource (e : Expr) : (e.atSource name).isNullCheck = e.isNullCheck := by
  rw [isNullCheck, nullChecked?_atSource, Option.isSome_map]
  rfl

/-! ### Two trees -/

/-- Does a node wait for the source?  It does if it is a root over the elements of the source, or
    anything but a root and that source. -/
def IsAwaiting (name : String) (element : Ty) : Expr → Prop
  | root t => t = element
  | source n t => ¬(n = name ∧ t = element)
  | _ => True

/-- All roots of the tree are over the elements of a source that is not in the tree. -/
def Awaits (name : String) (element : Ty) (e : Expr) : Prop :=
  ∀ n ∈ e.nodes, n.IsAwaiting name element

variable {element : Ty}

theorem Awaits.self {e : Expr} (h : e.Awaits name element) : e.IsAwaiting name element :=
  (forall_nodes_iff.mp h).1

theorem Awaits.part {e part : Expr} (h : e.Awaits name element) (hpart : part ∈ e.parts) :
    part.Awaits name element := (forall_nodes_iff.mp h).2 part hpart

theorem sameAll_atSource {as : List Expr} (ih : ∀ a ∈ as, ∀ b : Expr, b.Awaits name element →
      same (a.atSource name) (b.atSource name) = same a b) {bs : List Expr}
    (hbs : ∀ b ∈ bs, b.Awaits name element) :
    sameAll (as.map (atSource name)) (bs.map (atSource name)) = sameAll as bs := by
  induction as generalizing bs with
  | nil => cases bs <;> rfl
  | cons a as ihas =>
    cases bs with
    | nil => rfl
    | cons b bs =>
      obtain ⟨ha, has⟩ := List.forall_mem_cons.mp ih
      obtain ⟨hb, hbs⟩ := List.forall_mem_cons.mp hbs
      rw [List.map_cons, List.map_cons, sameAll, sameAll, ha b hb, ihas has hbs]

/-- **Trees that wait for the source** are equal afterwards exactly if they were before: no root
    becomes what was a source. -/
theorem beq_atSource {a b : Expr} (ha : a.Awaits name element) (hb : b.Awaits name element) :
    (a.atSource name == b.atSource name) = (a == b) := by
  show same (a.atSource name) (b.atSource name) = same a b
  -- a root that meets a source is the one place where the answer could change
  induction a generalizing b with
  | const | param | foreign => cases b <;> rfl
  | root t =>
    have ht : t = element := ha.self
    cases b with
    | root u =>
      show (name == name && t == u) = (t == u)
      rw [beq_self_eq_true, Bool.true_and]
    | source n u =>
      have hother : ¬(n = name ∧ u = element) := hb.self
      show (name == n && t == u) = false
      rw [Bool.and_eq_false_imp, beq_iff_eq]
      intro hn
      exact beq_eq_false_iff_ne.mpr fun htu => hother ⟨hn.symm, htu.symm.trans ht⟩
    | _ => rfl
  | source n t =>
    have hother : ¬(n = name ∧ t = element) := ha.self
    cases b with
    | root u =>
      have hu : u = element := hb.self
      show (n == name && t == u) = false
      rw [Bool.and_eq_false_imp, beq_iff_eq]
      intro hn
      exact beq_eq_false_iff_ne.mpr fun htu => hother ⟨hn, htu.trans hu⟩
    | _ => rfl
  | member owner n t ih =>
    cases b with
    | member owner' m u =>
      rw [atSource, atSource, same, same,
        ih (ha.part (by simp [parts])) (hb.part (by simp [parts]))]
    | _ => rfl
  | unary op operand t ih =>
    cases b with
    | unary op' operand' u =>
      rw [atSource, atSource, same, same,
        ih (ha.part (by simp [parts])) (hb.part (by simp [parts]))]
    | _ => rfl
  | lambda params body ih =>
    cases b with
    | lambda params' body' =>
      rw [atSource, atSource, same, same,
        ih (ha.part (by simp [parts])) (hb.part (by simp [parts]))]
    | _ => rfl
  | binary op left right t ihl ihr =>
    cases b with
    | binary op' left' right' u =>
      rw [atSource, atSource, same, same,
        ihl (ha.part (by simp [parts])) (hb.part (by simp [parts])),
        ihr (ha.part (by simp [parts])) (hb.part (by simp [parts]))]
    | _ => rfl
  | cond test ifTrue ifFalse t iha ihb ihc =>
    cases b with
    | cond test' ifTrue' ifFalse' u =>
      rw [atSource, atSource, same, same,
        iha (ha.part (by simp [parts])) (hb.part (by simp [parts])),
        ihb (ha.part (by simp [parts])) (hb.part (by simp [parts])),
        ihc (ha.part (by simp [parts])) (hb.part (by simp [parts]))]
    | _ => rfl
  | call m args t ih =>
    cases b with
    | call m' args' u =>
      have hbs : ∀ b ∈ args', b.Awaits name element := fun b hmem => hb.part (by simpa [parts])
      rw [atSource_call, atSource_call, same, same,
        sameAll_atSource (fun a hmem b hb => ih a hmem (ha.part (by simpa [parts])) hb) hbs]
    | _ =>
      rw [atSource_call]
      rfl
  | callOn receiver m args t ihr ih =>
    cases b with
    | callOn receiver' m' args' u =>
      have hbs : ∀ b ∈ args', b.Awaits name element :=
        fun b hmem => hb.part (by simp [parts, hmem])
      rw [atSource_callOn, atSource_callOn, same, same,
        ihr (ha.part (by simp [parts])) (hb.part (by simp [parts])),
        sameAll_atSource (fun a hmem b hb => ih a hmem (ha.part (by simp [parts, hmem])) hb) hbs]
    | _ =>
      rw [atSource_callOn]
      rfl

end GuardErasure.Expr
