import GuardErasure.Proofs.Rules.Preparing

namespace GuardErasure

/-!
# Rules and what stands around a tree

A call with one argument is no root and no guard.  So the rules pass it by, and do to the argument
what they do to it when it stands alone.

* `Outcome.within`, `Report.within` — what is told about a tree, told about the tree with something
  around it;
* `Rule.PassesBy` — a rule that does not mind what stands around a tree;
* `Strategy.result_run_within` — nor does a strategy of such rules, however many passes it makes;
* `Rule.rootSplice_passesBy`, `Rule.guardRemoval_passesBy` — the two rules, around a call.
-/

/-- The outcome for the tree with something around it. -/
def Outcome.within (around : Expr → Expr) (w : Outcome) : Outcome :=
  { w with expr := around w.expr }

/-- The application with something around the tree. -/
def Application.within (around : Expr → Expr) (a : Application) : Application :=
  { a with before := around a.before, after := around a.after }

/-- The report for the tree with something around it. -/
def Report.within (around : Expr → Expr) (r : Report) : Report :=
  { r with expr := around r.expr, trace := r.trace.map (·.within around) }

/-- Whether something stands around a tree makes no difference to the rule. -/
def Rule.PassesBy (rule : Rule) (around : Expr → Expr) : Prop :=
  ∀ e, (rule.act (around e)).result = (rule.act e).result.map (·.within around)

namespace Strategy

variable {around : Expr → Expr}

theorem noted_within (keepTrace : Bool) (rule : Rule) (r : Report) (w : Outcome) :
    noted keepTrace rule (r.within around) (w.within around)
      = (noted keepTrace rule r w).within around := by
  obtain ⟨e, changed⟩ := w
  cases changed with
  | false => rfl
  | true =>
    cases keepTrace with
    | false => rfl
    | true =>
      simp only [noted, Report.within, if_true, List.map_append]
      rfl

/-- So what is told about a tree is told about it with something around it. -/
theorem retells_within {p : Strategy} (h : ∀ rule ∈ p.rules, rule.PassesBy around) :
    p.Retells p (·.within around) (·.within around) where
  rules := rfl
  act rule hrule r := h rule hrule r.expr
  changed _ := rfl
  noted rule r w := noted_within p.settings.keepTrace rule r w
  started _ := rfl

/-- **A strategy whose rules pass something by** gives the report that it gives without it, with
    that around the tree, and fails as it does without it. -/
theorem result_run_within {p : Strategy} (h : ∀ rule ∈ p.rules, rule.PassesBy around) (e : Expr) :
    (p.run (around e)).result = (p.run e).result.map (·.within around) :=
  result_passes_retold (retells_within h) _ { expr := e }

end Strategy

namespace Rule

variable (m : Method) (t : Ty)

/-- Putting a source in the place of the roots passes a call by. -/
theorem rootSplice_passesBy (source : Expr) :
    (rootSplice source).PassesBy fun e => .call m [e] t := by
  intro e
  have hroots : (Expr.call m [e] t).rootElements = e.rootElements := by
    rw [Expr.rootElements_call, List.flatMap_singleton]
  rw [rootSplice_act, rootSplice_act, hroots]
  cases (misfits source e.rootElements).getLast? with
  | some element => rfl
  | none =>
    dsimp only
    by_cases hnone : e.rootElements.isEmpty = true
    · rw [if_pos hnone, if_pos hnone]
      rfl
    · rw [if_neg hnone, if_neg hnone, splice_call]
      rfl

/-- Removing guards passes a call by. -/
theorem guardRemoval_passesBy (s : ErasureSettings) :
    (guardRemoval s).PassesBy fun e => .call m [e] t := by
  intro e
  have herase : (shapeOf s).erase (.call m [e] t) = .call m [(shapeOf s).erase e] t :=
    Shape.swept_call m [e] t
  have hcount : (shapeOf s).removals (.call m [e] t) = (shapeOf s).removals e := by
    refine (Shape.removed_call m [e] t).trans ?_
    rw [List.map_singleton, List.sum_singleton]
    rfl
  rw [result_guardRemoval, result_guardRemoval, herase, hcount]
  rfl

/-- Making a query ready passes a call by. -/
theorem preparing_passesBy (source : Expr) (s : ErasureSettings) :
    ∀ rule ∈ (Strategy.preparing source s).rules, rule.PassesBy fun e => .call m [e] t := by
  intro rule hrule
  simp only [Strategy.preparing, List.mem_cons, List.not_mem_nil, or_false] at hrule
  rcases hrule with rfl | rfl
  · exact rootSplice_passesBy m t source
  · exact guardRemoval_passesBy m t s

end Rule

end GuardErasure
