import GuardErasure.Proofs.Eval.Follow
import GuardErasure.Proofs.Expr.Filled
import GuardErasure.Proofs.Guard.Combined
import GuardErasure.Proofs.Rules.Routes

namespace GuardErasure

/-!
# Types of operations in what rules leave

A rule that changes the type of a part has to type the operations above it anew.

* `Expr.combined_transformed` — a transformation of leaves does so, as the pass over guards does;
* `Rule.Keeps`, `Strategy.keeps_of_result_passes` — what every rule keeps, any number of passes keep;
* `combined_erasures` — so if every operation of a tree has the type that its operands give it, the same
  is true of what is left without guards and of what is made ready for a source.
-/

namespace Expr

variable {hook : Expr → Option Change}

/-- A tree of which all leaves stay is left as it is. -/
theorem transformed_of_stays (h : OnLeaves hook) {e : Expr} (hstays : e.stays (atLeaf hook) = true) :
    e.transformed hook = e := by
  have hkeep : e.transform hook = .keep := (transform_eq_keep_iff h e).mpr ((stays_iff e).mp hstays)
  rw [transformed, hkeep]
  rfl

/-- **A transformation of leaves** keeps operations typed by their operands, if the trees that take the
    place of leaves have theirs typed so. -/
theorem combined_transformed (h : OnLeaves hook) {e : Expr}
    (hleaves : ∀ n ∈ e.leaves, (n.transformed hook).Combined) (he : e.Combined) :
    (e.transformed hook).Combined := by
  have hargs {args : List Expr}
      (ih : ∀ a ∈ args, (∀ n ∈ a.leaves, (n.transformed hook).Combined) → a.Combined →
        (a.transformed hook).Combined)
      (hleaves : ∀ n ∈ args.flatMap leaves, (n.transformed hook).Combined)
      (he : ∀ a ∈ args, a.Combined) : ∀ a ∈ args.map (transformed hook), a.Combined :=
    List.forall_mem_map.mpr fun a ha => ih a ha (List.forall_mem_flatMap.mp hleaves a ha) (he a ha)
  induction e with
  | const | param | root | source | foreign =>
    rw [leaves_leaf rfl, List.forall_mem_singleton] at hleaves
    exact hleaves
  | member owner n t ih =>
    rw [leaves_member] at hleaves
    rw [combined_member] at he
    rw [transformed_member h, combined_member]
    exact ih hleaves he
  | unary op operand t ih =>
    rw [leaves_unary] at hleaves
    rw [combined_unary] at he
    rw [transformed_unary h, combined_unary]
    exact ih hleaves he
  | lambda params body ih =>
    rw [leaves_lambda] at hleaves
    rw [combined_lambda] at he
    rw [transformed_lambda h, combined_lambda]
    exact ih hleaves he
  | binary op left right t ihl ihr =>
    rw [leaves_binary, List.forall_mem_append] at hleaves
    obtain ⟨ht, hleft, hright⟩ := (combined_binary op left right t).mp he
    rw [transformed_binary_eq h, combined_binary]
    refine ⟨?_, ihl hleaves.1 hleft, ihr hleaves.2 hright⟩
    by_cases hstay : left.stays (atLeaf hook) = true ∧ right.stays (atLeaf hook) = true
    · -- the stored type stays, and so do the operands that it was computed from
      rw [if_pos hstay, transformed_of_stays h hstay.1, transformed_of_stays h hstay.2]
      exact ht
    · exact if_neg hstay
  | cond test ifTrue ifFalse t iha ihb ihc =>
    rw [leaves_cond, List.forall_mem_append, List.forall_mem_append] at hleaves
    rw [combined_cond] at he
    rw [transformed_cond h, combined_cond]
    exact ⟨iha hleaves.1.1 he.1, ihb hleaves.1.2 he.2.1, ihc hleaves.2 he.2.2⟩
  | call m args t ih =>
    rw [leaves_call] at hleaves
    rw [combined_call] at he
    rw [transformed_call h, combined_call]
    exact hargs ih hleaves he
  | callOn receiver m args t ihr ih =>
    rw [leaves_callOn, List.forall_mem_append] at hleaves
    rw [combined_callOn] at he
    rw [transformed_callOn h, combined_callOn]
    exact ⟨ihr hleaves.1 he.1, hargs ih hleaves.2 he.2⟩

end Expr

/-! ### What rules keep -/

namespace Rule

/-- What is true of a tree is true of what the rule gives back for it. -/
def Keeps (rule : Rule) (P : Expr → Prop) : Prop :=
  ∀ e w, P e → (rule.act e).result = .ok w → P w.expr

/-- Putting a source in the place of roots keeps operations typed by their operands, if the source has
    its own typed so. -/
theorem keeps_rootSplice {source : Expr} (hsource : source.Combined) :
    (rootSplice source).Keeps Expr.Combined := by
  have hplaced {e : Expr} (he : e.Combined) : (splice source e).Combined := by
    rw [splice_eq_transformed]
    refine Expr.combined_transformed (rootHook_onLeaves source) (fun n hn => ?_) he
    -- a root gives way to the source or stays, and no other leaf has an operation in it
    have hleaf : n.isLeaf = true := (List.mem_filter.mp hn).2
    cases n with
    | root element =>
      rw [← splice_eq_transformed, splice_root]
      split
      · exact hsource
      · exact Expr.combined_leaf rfl
    | const | param | source | foreign => exact Expr.combined_leaf rfl
    | _ => cases hleaf
  intro e w he hw
  rw [rootSplice_act] at hw
  split at hw
  · cases hw
  · cases hw
    split
    · exact he
    · exact hplaced he

/-- Removing guards keeps operations typed by their operands. -/
theorem keeps_guardRemoval (s : ErasureSettings) : (guardRemoval s).Keeps Expr.Combined := by
  intro e w he hw
  rw [result_guardRemoval] at hw
  cases hw
  exact Shape.combined_swept _ false he

end Rule

namespace Strategy

variable {p : Strategy} {P : Expr → Prop}

/-- **Rules in order** keep what each of them keeps. -/
theorem keeps_of_result_applyAll {keepTrace changed : Bool} {rules : List Rule} {r r' : Report}
    (hkeeps : ∀ rule ∈ rules, rule.Keeps P)
    (h : (applyAll keepTrace rules r).result = .ok (changed, r')) (hr : P r.expr) : P r'.expr := by
  induction rules generalizing r changed with
  | nil =>
    cases h
    exact hr
  | cons rule rules ih =>
    obtain ⟨hrule, hrules⟩ := List.forall_mem_cons.mp hkeeps
    obtain ⟨w, later, hact, hlater, -⟩ := result_applyAll_cons_eq_ok h
    refine ih hrules hlater ?_
    rw [expr_noted]
    exact hrule r.expr w hr hact

/-- **Any number of passes** keep what every rule keeps. -/
theorem keeps_of_result_passes (hkeeps : ∀ rule ∈ p.rules, rule.Keeps P) {n : Nat} {r r' : Report}
    (h : (p.passes n r).result = .ok r') (hr : P r.expr) : P r'.expr := by
  induction n generalizing r with
  | zero =>
    cases h
    exact hr
  | succ n ih =>
    obtain hpass | ⟨r₁, hpass, hpasses⟩ := result_passes_succ_eq_ok h
    · exact keeps_of_result_applyAll hkeeps hpass hr
    · exact ih hpasses (keeps_of_result_applyAll hkeeps hpass hr)

end Strategy

/-- **Operations stay typed by their operands.**  If every binary operation of an expression has the type
    that its operands give it, so has every one in what is left without the guards of either shape or of
    both, and in what the expression is made ready to for a source that has its own operations typed so,
    by any settings, in as many passes as these allow or in a single one. -/
theorem combined_erasures {e : Expr} (he : ∀ n ∈ e.nodes, n.IsCombined) :
    (∀ n ∈ (eraseMemberGuards e).nodes, n.IsCombined)
      ∧ (∀ n ∈ (eraseMethodGuards e).nodes, n.IsCombined)
      ∧ (∀ n ∈ (eraseGuards e).nodes, n.IsCombined)
      ∧ ∀ (source : Expr) (s : ErasureSettings), (∀ n ∈ source.nodes, n.IsCombined) →
        ∀ r, ((Strategy.preparing source s).run e).result = .ok r
            ∨ ((Strategy.preparing source s).runOnce e).result = .ok r →
          ∀ n ∈ r.expr.nodes, n.IsCombined := by
  refine ⟨Shape.combined_swept _ false he, Shape.combined_swept _ false he,
    Shape.combined_swept _ false he, fun source s hsource r hrun => ?_⟩
  have hkeeps : ∀ rule ∈ (Strategy.preparing source s).rules, rule.Keeps Expr.Combined :=
    List.forall_mem_cons.mpr
      ⟨Rule.keeps_rootSplice hsource, List.forall_mem_singleton.mpr (Rule.keeps_guardRemoval s)⟩
  rcases hrun with hrun | honce
  · exact Strategy.keeps_of_result_passes hkeeps hrun he
  · rw [Strategy.runOnce, Run.result_bind] at honce
    obtain ⟨⟨changed, r'⟩, hpass, hr⟩ := bind_eq_ok.mp honce
    cases hr
    exact Strategy.keeps_of_result_applyAll hkeeps hpass he

namespace Samples

/-- Those in a query of whom a condition is true. -/
def those (query body : Expr) : Expr := query.filtered (condition body)

/-- `p.Flag && p.Name.to_lower() == "k"`, which may be missing. -/
def bareConditions : Expr := flag.combine .and nameTest

/-- The people with a name. -/
def peopleWithNames : Expr := those (.source "people" personTy) name.neNull

end Samples

/-- Removing guards changes types: the operation above the two of them was a truth value, and may be
    missing when they are gone.  The source has an operation of its own. -/
theorem combined_erasures_guardsOfBothShapes :
    Samples.guardsOfBothShapes.ty = .bool
      ∧ (eraseGuards Samples.guardsOfBothShapes).ty = .option .bool
      ∧ (∀ n ∈ (Samples.those (.root Samples.personTy) Samples.guardsOfBothShapes).nodes,
        n.IsCombined)
      ∧ (∀ n ∈ Samples.peopleWithNames.nodes, n.IsCombined)
      ∧ ∃ r, ((Strategy.preparing Samples.peopleWithNames { maxPasses := 3 }).run
          (Samples.those (.root Samples.personTy) Samples.guardsOfBothShapes)).result = .ok r
        ∧ r.expr = Samples.those Samples.peopleWithNames Samples.bareConditions
        ∧ ∀ n ∈ r.expr.nodes, n.IsCombined := by
  have hquery : ∀ n ∈ (Samples.those (.root Samples.personTy) Samples.guardsOfBothShapes).nodes,
      n.IsCombined := by decide
  have hsource : ∀ n ∈ Samples.peopleWithNames.nodes, n.IsCombined := by decide
  obtain ⟨-, -, -, hready⟩ := combined_erasures hquery
  exact ⟨rfl, rfl, hquery, hsource, _, rfl, rfl,
    hready Samples.peopleWithNames { maxPasses := 3 } hsource _ (.inl rfl)⟩

end GuardErasure
