import GuardErasure.Proofs.Expr.Transform

namespace GuardErasure.Expr

/-!
# Other trees in the place of leaves

To put other trees in the place of some leaves is a plain recursion over the tree: every other node
is built again around its parts, as it was.  Only a binary operation cannot tell its type before it
knows its operands, and has it from them as soon as a leaf below it changes.

* `stays` — do all leaves of a tree stay;
* `filled` — the tree with the changed leaves in their places, `true` in the place of a dropped one,
  and `filled_congr`: it depends on its own leaves only;
* `transformed_eq_filled` — a transformation of leaves leaves just that tree.
-/

/-- Do all leaves of the tree stay? -/
def stays (f : Expr → Change) (e : Expr) : Bool := e.leaves.all fun n => !(f n).isChange

mutual

/-- The tree with what becomes of each leaf in its place.  A binary operation below which a leaf
    changes has the type that its new operands give it. -/
def filled (f : Expr → Change) : Expr → Expr
  | member owner n t => member (filled f owner) n t
  | callOn receiver m args t => callOn (filled f receiver) m (filledAll f args) t
  | call m args t => call m (filledAll f args) t
  | unary op operand t => unary op (filled f operand) t
  | binary op left right t =>
    binary op (filled f left) (filled f right)
      (if left.stays f ∧ right.stays f then t
        else op.resultTy (filled f left).ty (filled f right).ty)
  | cond test ifTrue ifFalse t => cond (filled f test) (filled f ifTrue) (filled f ifFalse) t
  | lambda params body => lambda params (filled f body)
  | e@(const ..) | e@(param ..) | e@(root ..) | e@(source ..) | e@(foreign ..) => (f e).result e

/-- The same for several trees, one by one. -/
def filledAll (f : Expr → Change) : List Expr → List Expr
  | [] => []
  | e :: es => filled f e :: filledAll f es

end

variable {f : Expr → Change}

theorem stays_iff (e : Expr) : e.stays f ↔ ∀ n ∈ e.leaves, f n = .keep := by
  rw [stays, List.all_eq_true]
  refine forall₂_congr fun n _ => ?_
  cases f n <;> simp [Change.isChange]

theorem filled_leaf {e : Expr} (h : e.isLeaf = true) : e.filled f = (f e).result e := by
  cases e <;> first | rfl | exact absurd h (by simp [isLeaf])

theorem filledAll_eq_map (es : List Expr) : filledAll f es = es.map (filled f) := by
  induction es with
  | nil => rfl
  | cons e es ih => rw [filledAll, ih, List.map_cons]

theorem filled_call (m : Method) (args : List Expr) (t : Ty) :
    (call m args t).filled f = call m (args.map (filled f)) t := by
  rw [filled, filledAll_eq_map]

theorem filled_callOn (receiver : Expr) (m : Method) (args : List Expr) (t : Ty) :
    (callOn receiver m args t).filled f
      = callOn (receiver.filled f) m (args.map (filled f)) t := by
  rw [filled, filledAll_eq_map]

/-- Only what becomes of the leaves of the tree matters. -/
theorem filled_congr {g : Expr → Change} {e : Expr} (h : ∀ n ∈ e.leaves, f n = g n) :
    e.filled f = e.filled g := by
  have hstays {e : Expr} (h : ∀ n ∈ e.leaves, f n = g n) : e.stays f = e.stays g := by
    rw [Bool.eq_iff_iff, stays_iff, stays_iff]
    exact forall₂_congr fun n hn => by rw [h n hn]
  have hargs {args : List Expr} (ih : ∀ a ∈ args, (∀ n ∈ a.leaves, f n = g n) →
      a.filled f = a.filled g) (h : ∀ n ∈ args.flatMap leaves, f n = g n) :
      args.map (filled f) = args.map (filled g) :=
    List.map_congr_left fun a ha => ih a ha (List.forall_mem_flatMap.mp h a ha)
  induction e with
  | const | param | root | source | foreign =>
    rw [leaves_leaf rfl, List.forall_mem_singleton] at h
    rw [filled_leaf rfl, filled_leaf rfl, h]
  | member owner n t ih =>
    rw [leaves_member] at h
    rw [filled, filled, ih h]
  | unary op operand t ih =>
    rw [leaves_unary] at h
    rw [filled, filled, ih h]
  | lambda params body ih =>
    rw [leaves_lambda] at h
    rw [filled, filled, ih h]
  | binary op left right t ihl ihr =>
    rw [leaves_binary, List.forall_mem_append] at h
    rw [filled, filled, ihl h.1, ihr h.2, hstays h.1, hstays h.2]
  | cond test ifTrue ifFalse t iha ihb ihc =>
    rw [leaves_cond, List.forall_mem_append, List.forall_mem_append] at h
    rw [filled, filled, iha h.1.1, ihb h.1.2, ihc h.2]
  | call m args t ih =>
    rw [leaves_call] at h
    rw [filled_call, filled_call, hargs ih h]
  | callOn receiver m args t ihr ih =>
    rw [leaves_callOn, List.forall_mem_append] at h
    rw [filled_callOn, filled_callOn, ihr h.1, hargs ih h.2]

/-! ### What a transformation leaves -/

variable {hook : Expr → Option Change}

/-- What becomes of a leaf; one for which the hook has no answer stays. -/
def atLeaf (hook : Expr → Option Change) (e : Expr) : Change := (hook e).getD .keep

/-- A binary operation stays one.  It is typed anew if an operand changes, even if that is replaced by
    a tree that is the same. -/
theorem transformed_binary_eq (h : OnLeaves hook) (op : BinOp) (left right : Expr) (t : Ty) :
    (binary op left right t).transformed hook
      = binary op (left.transformed hook) (right.transformed hook)
        (if left.stays (atLeaf hook) ∧ right.stays (atLeaf hook) then t
          else op.resultTy (left.transformed hook).ty (right.transformed hook).ty) := by
  have hkeep (e : Expr) : e.stays (atLeaf hook) ↔ e.transform hook = .keep := by
    rw [stays_iff, transform_eq_keep_iff h]
    rfl
  by_cases hboth : left.transform hook = .keep ∧ right.transform hook = .keep
  · have hstay : left.stays (atLeaf hook) ∧ right.stays (atLeaf hook) :=
      ⟨(hkeep left).mpr hboth.1, (hkeep right).mpr hboth.2⟩
    rw [if_pos hstay, transformed, transformed, transformed, transform_binary h, hboth.1, hboth.2]
    rfl
  · have hchange : ¬(left.stays (atLeaf hook) ∧ right.stays (atLeaf hook)) :=
      fun hstay => hboth ⟨(hkeep left).mp hstay.1, (hkeep right).mp hstay.2⟩
    rw [if_neg hchange, transformed, transform_binary h, Change.result_inBinary_of_change hboth]
    rfl

/-- **A transformation of leaves** leaves the tree with the changed leaves in their places. -/
theorem transformed_eq_filled (h : OnLeaves hook) (e : Expr) :
    e.transformed hook = e.filled (atLeaf hook) := by
  induction e with
  | const | param | root | source | foreign =>
    rw [transformed, transform_leaf rfl, filled_leaf rfl]
    rfl
  | member owner n t ih => rw [transformed_member h, ih, filled]
  | unary op operand t ih => rw [transformed_unary h, ih, filled]
  | lambda params body ih => rw [transformed_lambda h, ih, filled]
  | binary op left right t ihl ihr => rw [transformed_binary_eq h, ihl, ihr, filled]
  | cond test ifTrue ifFalse t iha ihb ihc => rw [transformed_cond h, iha, ihb, ihc, filled]
  | call m args t ih => rw [transformed_call h, List.map_congr_left ih, filled_call]
  | callOn receiver m args t ihr ih =>
    rw [transformed_callOn h, ihr, List.map_congr_left ih, filled_callOn]

end GuardErasure.Expr
