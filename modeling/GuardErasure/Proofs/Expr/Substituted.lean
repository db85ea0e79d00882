import GuardErasure.Proofs.Expr.Filled
import GuardErasure.Proofs.Expr.Head
import GuardErasure.Samples

namespace GuardErasure

/-!
# Substitution of leaves

A transformation that has an answer of its own for leaves, and for nothing else, is substitution.

* `Expr.onLeaves` — the hook that answers for leaves;
* `Expr.filled_eq` — a node that is no leaf keeps what it has of its own, and its parts keep their number
  and their order;
* `Expr.kinds_filled` — the kinds of all nodes stay if those of the leaves do;
* `Expr.transform_onLeaves` — the three answers, and the tree that is left.
-/

namespace Expr

variable {f : Expr → Change}

/-! ### The hook -/

/-- Answer for leaves only. -/
def onLeaves (f : Expr → Change) (e : Expr) : Option Change := if e.isLeaf then some (f e) else none

theorem onLeaves_onLeaves (f : Expr → Change) : OnLeaves (onLeaves f) := by
  intro e he
  rw [onLeaves, he]
  rfl

/-- The answer for a leaf is the one that is given for it. -/
theorem atLeaf_onLeaves {e : Expr} (h : e.isLeaf = true) : atLeaf (onLeaves f) e = f e := by
  rw [atLeaf, onLeaves, if_pos h]
  rfl

theorem transformed_onLeaves (f : Expr → Change) (e : Expr) :
    e.transformed (onLeaves f) = e.filled f := by
  rw [transformed_eq_filled (onLeaves_onLeaves f)]
  exact filled_congr fun n hn => atLeaf_onLeaves (mem_leaves.mp hn).2

/-! ### The answer -/

theorem transform_onLeaves_eq_keep_iff (f : Expr → Change) (e : Expr) :
    e.transform (onLeaves f) = .keep ↔ ∀ n ∈ e.leaves, f n = .keep := by
  rw [transform_eq_keep_iff (onLeaves_onLeaves f)]
  exact forall₂_congr fun n hn => by
    rw [← atLeaf_onLeaves (f := f) (mem_leaves.mp hn).2]
    rfl

theorem transform_onLeaves_eq_drop_iff (f : Expr → Change) (e : Expr) :
    e.transform (onLeaves f) = .drop ↔ e.isLeaf = true ∧ f e = .drop := by
  cases h : e.isLeaf with
  | true =>
    have heq : e.transform (onLeaves f) = f e := by
      rw [transform_leaf h, ← atLeaf_onLeaves (f := f) h]
      rfl
    rw [heq]
    simp
  | false =>
    refine iff_of_false (fun hdrop => ?_) (by simp)
    have hnot := isDrop_transform (onLeaves_onLeaves f) h
    rw [hdrop] at hnot
    cases hnot

/-! ### The tree that is left -/

/-- **A node that is no leaf** keeps what it has of its own, around what is put in the place of each
    part. -/
theorem filled_eq {e : Expr} (h : e.isLeaf = false) :
    (e.filled f).kind = e.kind ∧ (e.filled f).head = e.head
      ∧ (e.filled f).parts = e.parts.map (filled f) := by
  cases e with
  | const | param | root | source | foreign => cases h
  | call m args t =>
    rw [filled_call]
    exact ⟨rfl, rfl, rfl⟩
  | callOn receiver m args t =>
    rw [filled_callOn]
    exact ⟨rfl, rfl, rfl⟩
  | _ => exact ⟨rfl, rfl, rfl⟩

/-- **The kinds of all nodes stay** if those of the leaves do. -/
theorem kinds_filled {e : Expr} (h : ∀ n ∈ e.leaves, ((f n).result n).kind = n.kind) :
    (e.filled f).nodes.map kind = e.nodes.map kind := by
  induction e using inductParts with
  | h e ih =>
    cases hleaf : e.isLeaf with
    | true =>
      -- what takes the place of a leaf is of its kind, so it is one node too
      rw [leaves_leaf hleaf, List.forall_mem_singleton] at h
      rw [filled_leaf hleaf, nodes_leaf hleaf, nodes_leaf ((isLeaf_congr h).trans hleaf),
        List.map_singleton, List.map_singleton, h]
    | false =>
      -- the kind of the node stays, and those below it do by induction
      obtain ⟨hkind, -, hparts⟩ := filled_eq (f := f) hleaf
      have hpart : ∀ part ∈ e.parts, (part.filled f).nodes.map kind = part.nodes.map kind := by
        intro part hpart
        refine ih part hpart fun n hn => h n ?_
        obtain ⟨hnode, hn⟩ := mem_leaves.mp hn
        exact mem_leaves.mpr ⟨mem_nodes_of_part hpart hnode, hn⟩
      rw [nodes_eq_cons, nodes_eq_cons e, List.map_cons, List.map_cons, hkind, hparts,
        nodesOf_eq_flatMap, nodesOf_eq_flatMap, List.map_flatMap, List.map_flatMap,
        List.flatMap_map, List.flatMap_def, List.flatMap_def, List.map_congr_left hpart]

/-- **A transformation that answers for leaves is substitution.**

    * A tree stays exactly if all of its leaves do, and it is dropped exactly if it is a leaf that is.
    * Otherwise it is replaced by the tree with what becomes of each leaf in its place, `true` for a
      dropped one.  Every other node keeps what it has of its own and its parts in their order; a binary
      operation has the type that its new operands give it if a leaf below it changes, and else keeps its
      own.
    * If what becomes of each leaf is of the leaf's kind, the kinds of all nodes are as they were. -/
theorem transform_onLeaves (f : Expr → Change) (e : Expr) :
    (e.transform (onLeaves f) = .keep ↔ ∀ n ∈ e.leaves, f n = .keep)
      ∧ (e.transform (onLeaves f) = .drop ↔ e.isLeaf = true ∧ f e = .drop)
      ∧ ((∃ n ∈ e.leaves, f n ≠ .keep) → ¬(e.isLeaf = true ∧ f e = .drop) →
        e.transform (onLeaves f) = .replace (e.filled f))
      ∧ (e.isLeaf = true → e.filled f = (f e).result e)
      ∧ (e.isLeaf = false →
        (e.filled f).head = e.head ∧ (e.filled f).parts = e.parts.map (filled f))
      ∧ (∀ op left right t, e = .binary op left right t →
        (e.filled f).ty = if left.stays f ∧ right.stays f then t
          else op.resultTy (left.filled f).ty (right.filled f).ty)
      ∧ ((∀ n ∈ e.leaves, ((f n).result n).kind = n.kind) →
        (e.transformed (onLeaves f)).kindLine = e.kindLine) := by
  refine ⟨transform_onLeaves_eq_keep_iff f e, transform_onLeaves_eq_drop_iff f e,
    fun hchange hleft => ?_, filled_leaf, fun h => (filled_eq h).2, ?_, fun hkinds => ?_⟩
  · have hresult : (e.transform (onLeaves f)).result e = e.filled f := transformed_onLeaves f e
    cases h : e.transform (onLeaves f) with
    | keep =>
      obtain ⟨n, hn, hne⟩ := hchange
      exact absurd ((transform_onLeaves_eq_keep_iff f e).mp h n hn) hne
    | drop => exact absurd ((transform_onLeaves_eq_drop_iff f e).mp h) hleft
    | replace tree =>
      rw [h] at hresult
      exact congrArg Change.replace hresult
  · rintro op left right t rfl
    rfl
  · have hnames := congrArg (List.map NodeKind.name) (kinds_filled hkinds)
    rw [List.map_map, List.map_map] at hnames
    rw [transformed_onLeaves]
    exact congrArg (" ".intercalate ·) hnames

end Expr

namespace Samples

/-- The parameter `q` for `p`, and no null. -/
def renamed : Expr → Change
  | .param "p" t => .replace (.param "q" t)
  | .const .null _ => .drop
  | _ => .keep

/-- `left != tested && 1 == 1`, where the types of the two comparisons need not be their own. -/
def besideOne (left tested : Expr) (leftTy rightTy : Ty) : Expr :=
  (Expr.binary .notEqual left tested leftTy).combine .and
    (.binary .equal (.ofValue (.int64 1)) (.ofValue (.int64 1)) rightTy)

/-- `q.Name` -/
def otherName : Expr := (Expr.param "q" personTy).read "Name" .string

end Samples

/-- Where a leaf changes the comparison gets its type, beside it a wrong one stays; alone a null is dropped;
    and a renamed parameter changes no kind. -/
theorem Expr.transform_onLeaves_renamed :
    (∃ n ∈ (Samples.besideOne Samples.name (.null .string) .object .object).leaves,
        Samples.renamed n ≠ .keep)
      ∧ (Samples.besideOne Samples.name (.null .string) .object .object).transform
          (onLeaves Samples.renamed)
        = .replace (Samples.besideOne Samples.otherName .trueLiteral .bool .object)
      ∧ (null .string).transform (onLeaves Samples.renamed) = .drop
      ∧ (∀ n ∈ Samples.lowerName.leaves, ((Samples.renamed n).result n).kind = n.kind)
      ∧ Samples.lowerName.transformed (onLeaves Samples.renamed)
        = Samples.otherName.invoke "to_lower" [] .string
      ∧ (Samples.lowerName.transformed (onLeaves Samples.renamed)).kindLine
        = Samples.lowerName.kindLine := by
  have hchange : ∃ n ∈ (Samples.besideOne Samples.name (.null .string) .object .object).leaves,
      Samples.renamed n ≠ .keep :=
    ⟨Samples.person, List.mem_cons_self, by simp [Samples.renamed, Samples.person]⟩
  have hkinds : ∀ n ∈ Samples.lowerName.leaves,
      ((Samples.renamed n).result n).kind = n.kind := by decide
  obtain ⟨-, -, hreplaced, -⟩ := transform_onLeaves Samples.renamed
    (Samples.besideOne Samples.name (.null .string) .object .object)
  obtain ⟨-, hdropped, -⟩ := transform_onLeaves Samples.renamed (null .string)
  obtain ⟨-, -, -, -, -, -, hline⟩ := transform_onLeaves Samples.renamed Samples.lowerName
  exact ⟨hchange, (hreplaced hchange fun h => absurd h.1 (by decide)).trans rfl,
    hdropped.mpr ⟨rfl, rfl⟩, hkinds, rfl, hline hkinds⟩

end GuardErasure
