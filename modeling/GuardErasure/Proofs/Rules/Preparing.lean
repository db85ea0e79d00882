import GuardErasure.Proofs.Rules.Passes
import GuardErasure.Proofs.Rules.Removal
import GuardErasure.Proofs.Rules.Splice

namespace GuardErasure

/-!
# Making a query ready

The strategy that makes a query ready puts the source in the place of the roots and then erases
guards, pass after pass:

* `Shape.rootElements_swept` — erasing guards makes no root;
* `Strategy.result_pass_preparing`, `Strategy.result_run_preparing` — one pass, and the whole run:
  no root is left after the first pass, so that the later ones cannot fail.
-/

namespace Shape

/-- **Erasing guards makes no root.** -/
theorem rootElements_swept (s : Shape) (inside : Bool) (e : Expr) :
    (s.swept inside e).rootElements ⊆ e.rootElements := by
  have happend {a a' b b' : List Ty} (ha : a ⊆ a') (hb : b ⊆ b') : a ++ b ⊆ a' ++ b' :=
    List.append_subset.mpr ⟨List.subset_append_of_subset_left _ ha,
      List.subset_append_of_subset_right _ hb⟩
  have hargs {inside : Bool} {args : List Expr}
      (ih : ∀ a ∈ args, (s.swept inside a).rootElements ⊆ a.rootElements) :
      (args.map (s.swept inside)).flatMap Expr.rootElements ⊆ args.flatMap Expr.rootElements := by
    intro t ht
    rw [List.flatMap_map] at ht
    obtain ⟨a, ha, hta⟩ := List.mem_flatMap.mp ht
    exact List.mem_flatMap.mpr ⟨a, ha, ih a ha hta⟩
  induction inside, e using s.inductSwept with
  | leaf inside e he =>
    rw [swept_leaf he]
    exact List.Subset.refl _
  | member inside owner n t ih =>
    rwa [swept_member, Expr.rootElements_member, Expr.rootElements_member]
  | lambda inside params body ih =>
    rwa [swept_lambda, Expr.rootElements_lambda, Expr.rootElements_lambda]
  | unary inside op operand t hu ih =>
    rwa [swept_unary hu, Expr.rootElements_unary, Expr.rootElements_unary]
  | call inside m args t ih =>
    rw [swept_call, Expr.rootElements_call, Expr.rootElements_call]
    exact hargs ih
  | callOn inside receiver m args t ihr ih =>
    rw [swept_callOn, Expr.rootElements_callOn, Expr.rootElements_callOn]
    exact happend ihr (hargs ih)
  | stripped operand t ht ih => rwa [(givesWay_stripped ht).1, Expr.rootElements_unary]
  | outside op left right t ihl ihr =>
    obtain ⟨t', heq⟩ := s.swept_outside op left right t
    rw [heq, Expr.rootElements_binary, Expr.rootElements_binary]
    exact happend ihl ihr
  | leftDropped op left right t hl ihl ihr =>
    rw [(givesWay_leftDropped hl).1, Expr.rootElements_binary]
    exact List.subset_append_of_subset_right _ ihr
  | rightDropped op left right t hl hr ihl ihr =>
    rw [(givesWay_rightDropped hl hr).1, Expr.rootElements_binary]
    exact List.subset_append_of_subset_left _ ihl
  | companion op left right t hl hr hc ihl ihr =>
    rw [swept_of_drops (drops_companion hl hr hc)]
    exact List.nil_subset _
  | bothLeft op left right t hl hr hc ihl ihr =>
    obtain ⟨t', heq⟩ := swept_inside (s := s) (t := t) hl hr hc
    rw [heq, Expr.rootElements_binary, Expr.rootElements_binary]
    exact happend ihl ihr
  | ownerGuard inside test ifTrue owner u t path hg ih =>
    rw [(givesWay_ownerGuard hg).1, Expr.rootElements_cond, Expr.rootElements_member]
    exact List.subset_append_of_subset_right _ ih
  | wholeGuard inside test ifTrue ifFalse t path hg ih =>
    rw [(givesWay_wholeGuard hg).1, Expr.rootElements_cond]
    exact List.subset_append_of_subset_right _ ih
  | collapsed test ifTrue ifFalse t hg hnull ih =>
    rw [(givesWay_collapsed hg hnull).1, Expr.rootElements_cond]
    exact List.subset_append_of_subset_right _ ih
  | cond inside test ifTrue ifFalse t hg hkeep iha ihb ihc =>
    rw [swept_cond hg hkeep, Expr.rootElements_cond, Expr.rootElements_cond]
    exact happend (happend iha ihb) ihc

end Shape

namespace Strategy

section Preparing

variable {source : Expr} (settings : ErasureSettings)

/-- What one pass of the preparation makes of a tree. -/
def prepared (source : Expr) (settings : ErasureSettings) (e : Expr) : Expr :=
  (Rule.shapeOf settings).erase (Rule.splice source e)

theorem rootElements_prepared {e : Expr} (hsource : source.rootElements = [])
    (h : ∀ t ∈ e.rootElements, source.ty.element? = some t) :
    (prepared source settings e).rootElements = [] := by
  apply List.eq_nil_of_subset_nil
  rw [← Rule.rootElements_splice_eq_nil hsource h]
  exact Shape.rootElements_swept (Rule.shapeOf settings) false (Rule.splice source e)

/-- **One pass**: if every root is over the source's elements, no rule fails. -/
theorem result_pass_preparing {r : Report}
    (h : ∀ t ∈ r.expr.rootElements, source.ty.element? = some t) :
    ∃ changed r', ((preparing source settings).pass r).result = .ok (changed, r')
      ∧ r'.expr = prepared source settings r.expr := by
  have hrules (r : Report) (h : ∀ t ∈ r.expr.rootElements, source.ty.element? = some t) :
      ∃ changed r', (applyAll settings.keepTrace (preparing source settings).rules r).result
          = .ok (changed, r') ∧ r'.expr = prepared source settings r.expr := by
    have hsplice := Rule.result_rootSplice h
    have hremoval := Rule.result_guardRemoval settings (Rule.splice source r.expr)
    rw [preparing, result_applyAll_cons hsplice,
      result_applyAll_cons (by rw [expr_noted]; exact hremoval)]
    exact ⟨_, _, rfl, expr_noted _ _ _ _⟩
  -- a pass counts itself, and that is all it does besides applying the rules
  exact hrules { r with passes := r.passes + 1 } h

/-- **Any number of passes**: no root is left after the first one, so that the others find
    nothing to complain about. -/
theorem result_passes_preparing (hsource : source.rootElements = []) (n : Nat) {r : Report}
    (h : ∀ t ∈ r.expr.rootElements, source.ty.element? = some t) :
    ∃ r', ((preparing source settings).passes (n + 1) r).result = .ok r'
      ∧ r'.expr.rootElements = [] := by
  -- the first pass is the one that meets roots; the induction hypothesis is used without any
  induction n generalizing r with
  | zero =>
    obtain ⟨changed, r', hpass, hexpr⟩ := result_pass_preparing settings h
    have hnone : r'.expr.rootElements = [] := hexpr ▸ rootElements_prepared settings hsource h
    refine ⟨r', ?_, hnone⟩
    rw [result_passes_succ hpass, result_passes_zero]
    exact ite_self _
  | succ n ih =>
    obtain ⟨changed, r', hpass, hexpr⟩ := result_pass_preparing settings h
    have hnone : r'.expr.rootElements = [] := hexpr ▸ rootElements_prepared settings hsource h
    rw [result_passes_succ hpass]
    cases changed with
    | false => exact ⟨r', rfl, hnone⟩
    | true => exact ih (by rw [hnone]; exact fun _ ht => absurd ht List.not_mem_nil)

/-- The whole preparation of a tree of which every root is over the source's elements. -/
theorem result_run_preparing (hsource : source.rootElements = []) {e : Expr}
    (h : ∀ t ∈ e.rootElements, source.ty.element? = some t) :
    ∃ r, ((preparing source settings).run e).result = .ok r ∧ r.expr.rootElements = [] := by
  obtain ⟨n, hrun⟩ := run_eq_passes_succ (preparing source settings)
  rw [hrun]
  exact result_passes_preparing settings hsource _ h

/-- By default one pass is all. -/
theorem result_run_preparing_once {settings : ErasureSettings}
    (hone : settings.maxPasses.toNat ≤ 1) {e : Expr}
    (h : ∀ t ∈ e.rootElements, source.ty.element? = some t) :
    ∃ r, ((preparing source settings).run e).result = .ok r
      ∧ r.expr = prepared source settings e := by
  obtain ⟨changed, r, hpass, hexpr⟩ :=
    result_pass_preparing settings (r := { expr := e }) h
  refine ⟨r, ?_, hexpr⟩
  show ((preparing source settings).passes (max settings.maxPasses.toNat 1) _).result = _
  rw [Nat.max_eq_right hone, result_passes_succ hpass, result_passes_zero]
  exact ite_self _

end Preparing

end Strategy

end GuardErasure
