import GuardErasure.Proofs.Expr.Transform
import GuardErasure.Rules.Basic

namespace GuardErasure

/-!
# A source in the place of the roots

* `Rule.splice` — the tree with a source in the place of every root over its elements, and
  `Rule.splice_root`, `Rule.splice_call`: at a root and in a call;
* `Rule.rootElements_splice` — the roots that are left then;
* `Rule.splice_eq_self` — a tree without roots stays;
* `Rule.transformLeaves_spliceLeaf` — the tree and what is found on the way through it, and
  `Rule.rootSplice_act`: what the rule makes of both;
* `Rule.result_rootSplice` — the rule that puts the source in place, if every root is over the
  source's elements.
-/

namespace Rule

/-! ### The source in place of the roots -/

/-- Put a source in the place of every root over its elements. -/
def splice (source e : Expr) : Expr :=
  (e.transform fun
    | .root element =>
      if source.ty.element? = some element then some (.replace source) else some .keep
    | _ => none).result e

/-- What becomes of a node when a source is put in the place of the roots. -/
def rootHook (source : Expr) : Expr → Option Change
  | .root element =>
    if source.ty.element? = some element then some (.replace source) else some .keep
  | _ => none

theorem splice_eq_transformed (source : Expr) :
    splice source = Expr.transformed (rootHook source) := rfl

theorem rootHook_onLeaves (source : Expr) : Expr.OnLeaves (rootHook source) := by
  intro e he
  cases e with
  | root => cases he
  | _ => rfl

variable {source : Expr}

theorem splice_root (element : Ty) :
    splice source (.root element)
      = if source.ty.element? = some element then source else .root element := by
  show ((rootHook source (.root element)).getD .keep).result _ = _
  rw [rootHook]
  split <;> rfl

theorem splice_call (m : Method) (args : List Expr) (t : Ty) :
    splice source (.call m args t) = .call m (args.map (splice source)) t :=
  Expr.transformed_call (rootHook_onLeaves source) m args t

/-- The element types of the roots that are left of a root. -/
def rootsLeft (source : Expr) (element : Ty) : List Ty :=
  if source.ty.element? = some element then source.rootElements else [element]

/-- **The roots that are left**: those of the source for every root that it takes the place of,
    and every other root. -/
theorem rootElements_splice (source e : Expr) :
    (splice source e).rootElements = e.rootElements.flatMap (rootsLeft source) := by
  have h := rootHook_onLeaves source
  have hargs {args : List Expr}
      (ih : ∀ a ∈ args, (a.transformed (rootHook source)).rootElements
        = a.rootElements.flatMap (rootsLeft source)) :
      (args.flatMap fun a => (a.transformed (rootHook source)).rootElements)
        = args.flatMap fun a => a.rootElements.flatMap (rootsLeft source) := by
    rw [List.flatMap_def, List.flatMap_def, List.map_congr_left ih]
  rw [splice_eq_transformed]
  induction e with
  | const | param | source | foreign => rfl
  | root element =>
    show (splice source (.root element)).rootElements = [element].flatMap (rootsLeft source)
    rw [splice_root, List.flatMap_singleton, rootsLeft, apply_ite Expr.rootElements]
    rfl
  | member owner n t ih =>
    rw [Expr.transformed_member h, Expr.rootElements_member, ih, Expr.rootElements_member]
  | unary op operand t ih =>
    rw [Expr.transformed_unary h, Expr.rootElements_unary, ih, Expr.rootElements_unary]
  | lambda params body ih =>
    rw [Expr.transformed_lambda h, Expr.rootElements_lambda, ih, Expr.rootElements_lambda]
  | binary op left right t ihl ihr =>
    obtain ⟨t', heq⟩ := Expr.transformed_binary h op left right t
    rw [heq, Expr.rootElements_binary, ihl, ihr, Expr.rootElements_binary, List.flatMap_append]
  | cond test ifTrue ifFalse t iha ihb ihc =>
    rw [Expr.transformed_cond h, Expr.rootElements_cond, iha, ihb, ihc, Expr.rootElements_cond,
      List.flatMap_append, List.flatMap_append]
  | call m args t ih =>
    rw [Expr.transformed_call h, Expr.rootElements_call, Expr.rootElements_call, List.flatMap_map,
      List.flatMap_assoc, hargs ih]
  | callOn receiver m args t ihr ih =>
    rw [Expr.transformed_callOn h, Expr.rootElements_callOn, Expr.rootElements_callOn, ihr,
      List.flatMap_map, List.flatMap_append, List.flatMap_assoc, hargs ih]

/-- Without a root in it a tree stays as it is. -/
theorem splice_eq_self {e : Expr} (h : e.rootElements = []) : splice source e = e := by
  have hkeep : ∀ n ∈ e.leaves, (rootHook source n).getD .keep = .keep := by
    rw [Expr.rootElements_eq_filterMap_leaves, List.filterMap_eq_nil_iff] at h
    intro n hn
    cases n with
    | root element => cases h _ hn
    | _ => rfl
  show (e.transform (rootHook source)).result e = e
  rw [(Expr.transform_eq_keep_iff (rootHook_onLeaves source) e).mpr hkeep]
  rfl

/-- If the source has no root, none is left in the place of roots over its elements. -/
theorem rootElements_splice_eq_nil {e : Expr} (hsource : source.rootElements = [])
    (h : ∀ t ∈ e.rootElements, source.ty.element? = some t) :
    (splice source e).rootElements = [] := by
  rw [rootElements_splice, List.flatMap_eq_nil_iff]
  intro t ht
  rw [rootsLeft, if_pos (h t ht), hsource]

/-! ### The way through the tree -/

/-- Those of some roots that a source does not fit; a root is told by its elements. -/
def misfits (source : Expr) (roots : List Ty) : List Ty :=
  roots.filter (some · ≠ source.ty.element?)

/-- Those of some roots that a source fits. -/
def fits (source : Expr) (roots : List Ty) : List Ty :=
  roots.filter (some · = source.ty.element?)

/-- **What is found at leaves**, one after another: the last root that the source does not fit, and how
    many it fits. -/
theorem foldl_remember_spliceLeaf (source : Expr) (ns : List Expr) (s : Splicing) :
    ns.foldl (Expr.remember (spliceLeaf source)) s
      = ⟨(misfits source (ns.filterMap Expr.overElement?)).getLast?.or s.misfit,
        s.replaced + (fits source (ns.filterMap Expr.overElement?)).length⟩ := by
  induction ns generalizing s with
  | nil => rfl
  | cons n ns ih =>
    rw [List.foldl_cons, ih]
    cases n with
    | root element =>
      have hroots : (Expr.root element :: ns).filterMap Expr.overElement?
          = element :: ns.filterMap Expr.overElement? := rfl
      rw [hroots, misfits, fits, Expr.remember, spliceLeaf]
      by_cases hfit : source.ty.element? = some element
      · rw [if_pos hfit, misfits, fits, List.filter_cons_of_neg (by simp [hfit]),
          List.filter_cons_of_pos (by simp [hfit]), List.length_cons, Nat.add_assoc, Nat.add_comm 1]
      · rw [if_neg hfit, misfits, fits, List.filter_cons_of_pos (by simp [Ne.symm hfit]),
          List.filter_cons_of_neg (by simp [Ne.symm hfit]), List.getLast?_cons]
        cases List.getLast? _ <;> rfl
    | _ => rfl

/-- **One way through the tree** puts the source in place, and finds the last root that it does not fit
    and how many it fits. -/
theorem transformLeaves_spliceLeaf (source e : Expr) (s : Splicing) :
    e.transformLeaves (spliceLeaf source) s
      = (e.transform (rootHook source),
        ⟨(misfits source e.rootElements).getLast?.or s.misfit,
          s.replaced + (fits source e.rootElements).length⟩) := by
  have hleaf : ∀ n : Expr, n.isLeaf = true → ∀ s : Splicing,
      (spliceLeaf source n s).1 = (rootHook source n).getD .keep := by
    intro n _ s
    cases n with
    | root element =>
      rw [spliceLeaf, rootHook]
      split <;> rfl
    | _ => rfl
  rw [Expr.transformLeaves_eq (rootHook_onLeaves source) hleaf, foldl_remember_spliceLeaf,
    Expr.rootElements_eq_filterMap_leaves]

/-- What the rule makes of what is found: it reports the last root that does not fit, and a change if
    there is a root at all. -/
theorem rootSplice_act (source e : Expr) :
    (rootSplice source).act e
      = match (misfits source e.rootElements).getLast? with
        | some element => .fail (.rootMismatch element source.ty)
        | none => pure (if e.rootElements.isEmpty then ⟨e, false⟩ else ⟨splice source e, true⟩) := by
  simp only [rootSplice, transformLeaves_spliceLeaf, Option.or_none, Nat.zero_add]
  cases hlast : (misfits source e.rootElements).getLast? with
  | some element => rfl
  | none =>
    -- without a root that does not fit, all roots are counted
    have hfits : fits source e.rootElements = e.rootElements := by
      have hnone := List.filter_eq_nil_iff.mp (List.getLast?_eq_none_iff.mp hlast)
      exact List.filter_eq_self.mpr fun t ht => by simpa using hnone t ht
    rw [hfits]
    cases e.rootElements <;> rfl

/-- **The rule that puts the source in place** does so if every root is over the source's
    elements, and reports a change if there is a root. -/
theorem result_rootSplice {e : Expr} (h : ∀ t ∈ e.rootElements, source.ty.element? = some t) :
    ((rootSplice source).act e).result
      = .ok ⟨splice source e, !e.rootElements.isEmpty⟩ := by
  have hnone : misfits source e.rootElements = [] := by
    rw [misfits, List.filter_eq_nil_iff]
    intro t ht
    simp [h t ht]
  -- with no root to report, the rule looks only at whether there is one
  rw [rootSplice_act, hnone, List.getLast?_nil]
  cases hroots : e.rootElements with
  | nil =>
    rw [splice_eq_self hroots]
    rfl
  | cons t ts => rfl

end Rule

end GuardErasure
