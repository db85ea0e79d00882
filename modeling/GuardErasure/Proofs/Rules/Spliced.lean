import GuardErasure.Proofs.Expr.Filled
import GuardErasure.Proofs.Rules.Splice
import GuardErasure.Samples

namespace GuardErasure

/-!
# What putting a source in place leaves

The rule that puts a source in the place of the roots goes through the tree once.  On its way it
transforms the tree, notes roots that do not fit and counts those that do.

* `Expr.withSource` — the tree with the source in the place of every root, by plain recursion, and
  `Expr.size_withSource`: each root makes room for all nodes of the source;
* `Rule.splice_eq_withSource` — what the transformation leaves if all roots fit;
* `Rule.misfits_iff`, `Rule.result_rootSplice_of_misfits` — when the rule fails, and how;
* `Rule.rootSplice_exact` — the rule altogether.
-/

namespace Expr

/-- A root of the tree is one of its nodes. -/
theorem mem_rootElements {e : Expr} {t : Ty} : t ∈ e.rootElements ↔ .root t ∈ e.nodes := by
  rw [rootElements, List.mem_filterMap]
  constructor
  · rintro ⟨n, hn, ht⟩
    cases n with
    | root u =>
      cases ht
      exact hn
    | _ => cases ht
  · exact fun hn => ⟨.root t, hn, rfl⟩

/-- What becomes of a leaf if a source takes the place of the roots. -/
def atRoot (source : Expr) : Expr → Change
  | root _ => .replace source
  | _ => .keep

/-- The tree with a source in the place of every root.  A binary operation above a root has the type
    that its new operands give it; all else is as it was. -/
def withSource (e source : Expr) : Expr := e.filled (atRoot source)

/-- **Each root makes room** for all nodes of the source. -/
theorem size_withSource (e source : Expr) :
    (e.withSource source).size = e.size + e.rootElements.length * (source.size - 1) := by
  have hpos : 0 < source.size := source.size_pos
  have hargs {args : List Expr} (ih : ∀ a ∈ args, (a.filled (atRoot source)).size
      = a.size + a.rootElements.length * (source.size - 1)) :
      sizeOfAll (args.map (filled (atRoot source)))
        = sizeOfAll args + (args.flatMap rootElements).length * (source.size - 1) := by
    induction args with
    | nil => rw [List.map_nil, List.flatMap_nil, List.length_nil, Nat.zero_mul, Nat.add_zero]
    | cons a as ihas =>
      obtain ⟨ha, has⟩ := List.forall_mem_cons.mp ih
      rw [List.map_cons, sizeOfAll, sizeOfAll, ha, ihas has, List.flatMap_cons,
        List.length_append, Nat.add_mul]
      omega
  show (e.filled (atRoot source)).size = _
  induction e with
  | const | param | source | foreign =>
    show 1 = 1 + 0 * (source.size - 1)
    omega
  | root t =>
    show source.size = 1 + 1 * (source.size - 1)
    omega
  | member owner n t ih =>
    rw [filled, size_member, size_member, ih, rootElements_member]
    omega
  | unary op operand t ih =>
    rw [filled, size_unary, size_unary, ih, rootElements_unary]
    omega
  | lambda params body ih =>
    rw [filled, size_lambda, size_lambda, ih, rootElements_lambda]
    omega
  | binary op left right t ihl ihr =>
    rw [filled, size_binary, size_binary, ihl, ihr, rootElements_binary, List.length_append,
      Nat.add_mul]
    omega
  | cond test ifTrue ifFalse t iha ihb ihc =>
    rw [filled, size_cond, size_cond, iha, ihb, ihc, rootElements_cond, List.length_append,
      List.length_append, Nat.add_mul, Nat.add_mul]
    omega
  | call m args t ih =>
    rw [filled_call, size_call, size_call, hargs ih, rootElements_call]
    omega
  | callOn receiver m args t ihr ih =>
    rw [filled_callOn, size_callOn, size_callOn, ihr, hargs ih, rootElements_callOn,
      List.length_append, Nat.add_mul]
    omega

end Expr

namespace Rule

variable {source e : Expr}

/-! ### If all roots fit -/

/-- **If all roots fit** the transformation leaves the tree with the source in their places. -/
theorem splice_eq_withSource (h : ∀ t ∈ e.rootElements, source.ty.element? = some t) :
    splice source e = e.withSource source := by
  rw [splice_eq_transformed, Expr.transformed_eq_filled (rootHook_onLeaves source)]
  apply Expr.filled_congr
  intro n hn
  cases n with
  | root t =>
    have ht : t ∈ e.rootElements := by
      rw [Expr.rootElements_eq_filterMap_leaves]
      exact List.mem_filterMap.mpr ⟨_, hn, rfl⟩
    rw [Expr.atLeaf, rootHook, if_pos (h t ht)]
    rfl
  | _ => rfl

/-! ### If a root does not fit -/

/-- Some root of the tree is over other elements than those of the source, or there is a root and the
    source is no sequence. -/
def Misfits (source e : Expr) : Prop :=
  (∃ t u, .root t ∈ e.nodes ∧ source.ty.element? = some u ∧ t ≠ u)
    ∨ (∃ t, .root t ∈ e.nodes) ∧ source.ty.isSeq = false

theorem misfits_iff :
    Misfits source e ↔ ∃ t ∈ e.rootElements, source.ty.element? ≠ some t := by
  simp only [Misfits, Expr.mem_rootElements, Ty.isSeq]
  cases source.ty.element? with
  | none => simp
  | some u => simp [eq_comm]

/-- **The rule fails** exactly if a root does not fit, wherever it stands and however many roots fit
    before or after it.  The fault is one of types. -/
theorem result_rootSplice_of_misfits (h : Misfits source e) :
    ∃ t, ((rootSplice source).act e).result = .error (.rootMismatch t source.ty) := by
  obtain ⟨t, ht, hne⟩ := misfits_iff.mp h
  have hmem : t ∈ misfits source e.rootElements := by
    rw [misfits, List.mem_filter]
    exact ⟨ht, decide_eq_true (Ne.symm hne)⟩
  cases hlast : (misfits source e.rootElements).getLast? with
  | none =>
    rw [List.getLast?_eq_none_iff.mp hlast] at hmem
    exact absurd hmem List.not_mem_nil
  | some u =>
    refine ⟨u, ?_⟩
    rw [rootSplice_act, hlast]
    rfl

/-- If none does not fit, all do. -/
theorem fits_of_not_misfits (h : ¬Misfits source e) :
    ∀ t ∈ e.rootElements, source.ty.element? = some t := by
  intro t ht
  exact Decidable.byContradiction fun hne => h (misfits_iff.mpr ⟨t, ht, hne⟩)

/-- **The rule that puts a source in place is exact.**

    * It fails exactly if a root of the tree, at whatever depth, is over other elements than those of
      the source, or if there is a root and the source is no sequence; the fault is one of types.
    * Otherwise it gives back the tree with the source in the place of every root, which is larger by
      the nodes of the source less one for each root, and reports a change if there is a root.
    * If there is no root in the source, none is left, and applied again the rule reports none and
      leaves the tree as it is. -/
theorem rootSplice_exact (source e : Expr) :
    ((∃ f, ((rootSplice source).act e).result = .error f) ↔ Misfits source e)
      ∧ (∀ f, ((rootSplice source).act e).result = .error f → f.kind = .type)
      ∧ ∀ w, ((rootSplice source).act e).result = .ok w →
        w.expr = e.withSource source
          ∧ w.expr.size = e.size + e.rootElements.length * (source.size - 1)
          ∧ (w.changed = true ↔ 0 < e.rootElements.length)
          ∧ (source.rootElements = [] → w.expr.rootElements = []
            ∧ ((rootSplice source).act w.expr).result = .ok ⟨w.expr, false⟩) := by
  by_cases h : Misfits source e
  · obtain ⟨t, hfail⟩ := result_rootSplice_of_misfits h
    refine ⟨iff_of_true ⟨_, hfail⟩ h, fun f hf => ?_, fun w hw => ?_⟩
    · rw [hfail] at hf
      cases hf
      rfl
    · rw [hfail] at hw
      cases hw
  · have hfits := fits_of_not_misfits h
    have hrun := result_rootSplice hfits
    refine ⟨iff_of_false (fun ⟨f, hf⟩ => ?_) h, fun f hf => ?_, fun w hw => ?_⟩
    · rw [hrun] at hf
      cases hf
    · rw [hrun] at hf
      cases hf
    · rw [hrun] at hw
      cases hw
      refine ⟨splice_eq_withSource hfits, ?_, ?_, fun hsource => ?_⟩
      · rw [splice_eq_withSource hfits, Expr.size_withSource]
      · rw [List.length_pos_iff, ne_eq, ← List.isEmpty_iff, Bool.not_eq_true', Bool.not_eq_true]
      · have hnone : (splice source e).rootElements = [] :=
          rootElements_splice_eq_nil hsource hfits
        refine ⟨hnone, ?_⟩
        rw [result_rootSplice (by rw [hnone]; exact List.forall_mem_nil _), splice_eq_self hnone,
          hnone]
        rfl

end Rule

namespace Samples

/-- The people with a flag. -/
def flaggedPeople : Expr :=
  .callNamed "where" [.source "people" personTy, condition flag] (.seq personTy)

/-- A query, if there are fewer in it than in it and in another one together; that sum has some type
    stored. -/
def fewerThanBoth (query other : Expr) (sumTy : Ty) : Expr :=
  let counted (q : Expr) : Expr := .callNamed "count" [q] .int64
  .callNamed "where" [query, condition ((counted query).combine .less
    (.binary .add (counted query) (counted other) sumTy))] (.seq personTy)

end Samples

/-- Four roots make room for five nodes each, and the sum above two of them gets its type; with a root
    over texts among them nothing is put in place. -/
theorem Rule.rootSplice_exact_flaggedPeople :
    (∃ w, ((rootSplice Samples.flaggedPeople).act
          (Samples.fewerThanBoth (.root Samples.personTy) (.root Samples.personTy) .object)).result
          = .ok w
        ∧ w.expr = Samples.fewerThanBoth Samples.flaggedPeople Samples.flaggedPeople .int64
        ∧ w.expr.size = 11 + 4 * (5 - 1) ∧ w.changed = true ∧ w.expr.rootElements = []
        ∧ ((rootSplice Samples.flaggedPeople).act w.expr).result = .ok ⟨w.expr, false⟩)
      ∧ ∃ f, ((rootSplice Samples.flaggedPeople).act
          (Samples.fewerThanBoth (.root Samples.personTy) (.root .string) .object)).result = .error f
        ∧ f.kind = .type := by
  constructor
  · obtain ⟨_, _, hplaced⟩ := rootSplice_exact Samples.flaggedPeople
      (Samples.fewerThanBoth (.root Samples.personTy) (.root Samples.personTy) .object)
    obtain ⟨hexpr, hsize, hchanged, hclosed⟩ := hplaced _ rfl
    obtain ⟨hnone, hagain⟩ := hclosed (by decide)
    exact ⟨_, rfl, hexpr.trans rfl, hsize, hchanged.mpr (by decide), hnone, hagain⟩
  · obtain ⟨hfails, hkind, _⟩ := rootSplice_exact Samples.flaggedPeople
      (Samples.fewerThanBoth (.root Samples.personTy) (.root .string) .object)
    have hmisfits : Misfits Samples.flaggedPeople
        (Samples.fewerThanBoth (.root Samples.personTy) (.root .string) .object) :=
      .inl ⟨.string, Samples.personTy, Expr.mem_rootElements.mp (by decide), rfl, by decide⟩
    obtain ⟨f, hf⟩ := hfails.mpr hmisfits
    exact ⟨f, hf, hkind f hf⟩

end GuardErasure
