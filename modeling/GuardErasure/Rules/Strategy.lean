import GuardErasure.Expr.Text
import GuardErasure.Rules.Basic
import GuardErasure.Text.Quoted

namespace GuardErasure

/-!
# Strategies

A strategy applies its rules in order, pass after pass, until a pass changes nothing or the
passes are used up:

* `Application` — one application of a rule that changed the expression;
* `Report` — where a strategy has got to;
* `Strategy.pass`, `Strategy.passes` — one pass, and up to a number of them;
* `Strategy.run`, `Strategy.runOnce` — the strategy as its settings say, and for one pass;
* `Strategy.preparing` — the strategy that makes a query ready for a source.
-/

/-- One application of a rule that changed the expression. -/
structure Application where
  rule : String
  /-- The pass it happened in, from one on. -/
  pass : Nat
  before : Expr
  after : Expr

namespace Application

/-- How many nodes the application added; negative if it removed some. -/
def growth (a : Application) : Int := a.after.size - a.before.size

/-- An application on one line. -/
def text (a : Application) : String :=
  let sign := if 0 ≤ a.growth then "+" else ""
  s!"pass {a.pass} {a.rule} ({sign}{a.growth} nodes): {a.before.text} => {a.after.text}"

end Application

/-- Where a strategy has got to. -/
structure Report where
  expr : Expr
  passes : Nat := 0
  /-- How many applications changed the expression. -/
  applied : Nat := 0
  /-- Those applications, if a record of them is kept. -/
  trace : List Application := []

namespace Report

/-- Has any rule changed the expression? -/
def changed (r : Report) : Bool := 0 < r.applied

/-- The report as a text, one line for each recorded application. -/
def text (r : Report) : String :=
  s!"{r.applied} rule application(s) over {r.passes} pass(es)" ++
    String.join (r.trace.map fun a => "\n  " ++ a.text)

end Report

/-- Rules in the order of their application, and the settings for running them. -/
structure Strategy where
  rules : List Rule
  settings : ErasureSettings := {}

namespace Strategy

/-- The strategy that removes guards. -/
def usual : Strategy := { rules := [.guardRemoval {}] }

/-- The strategy that makes a query ready for a source: put the source in place, then remove
    guards. -/
def preparing (source : Expr) (s : ErasureSettings) : Strategy :=
  { rules := [.rootSplice source, .guardRemoval s], settings := s }

/-- One more rule, after all others. -/
def andThen (p : Strategy) (r : Rule) : Strategy := { p with rules := p.rules ++ [r] }

/-- The names of the rules. -/
def names (p : Strategy) : List String := p.rules.map (·.name)

/-- The strategy as it is shown in messages. -/
def text (p : Strategy) : String :=
  "RewritePipeline \x7b rules: [" ++ ", ".intercalate (p.names.map Text.quoted) ++
    "], config: " ++ p.settings.text ++ " \x7d"

/-! ### Running -/

/-- The report after a rule was applied. -/
def noted (keepTrace : Bool) (rule : Rule) (r : Report) (w : Outcome) : Report :=
  if w.changed then
    { r with
      expr := w.expr
      applied := r.applied + 1
      trace :=
        if keepTrace then r.trace ++ [⟨rule.name, r.passes, r.expr, w.expr⟩] else r.trace }
  else { r with expr := w.expr }

/-- Apply rules in order: did any of them change the expression, and the report. -/
def applyAll (keepTrace : Bool) : List Rule → Report → Run (Bool × Report)
  | [], r => pure (false, r)
  | rule :: rules, r => do
    let w ← rule.act r.expr
    if w.changed then Run.tell (.ruleApplied rule.name r.passes)
    let (later, r) ← applyAll keepTrace rules (noted keepTrace rule r w)
    return (w.changed || later, r)

/-- One pass. -/
def pass (p : Strategy) (r : Report) : Run (Bool × Report) :=
  applyAll p.settings.keepTrace p.rules { r with passes := r.passes + 1 }

/-- Pass after pass, until one changes nothing or none is left. -/
def passes (p : Strategy) : Nat → Report → Run Report
  | 0, r => do
    Run.tell (.passesSpent r.passes)
    return r
  | left + 1, r => do
    let (changed, r) ← p.pass r
    if changed then p.passes left r
    else
      Run.tell (.fixpoint r.passes)
      return r

/-- Run the strategy for as many passes as its settings allow, and for one at least. -/
def run (p : Strategy) (e : Expr) : Run Report :=
  p.passes (max p.settings.maxPasses.toNat 1) { expr := e }

/-- Run the strategy for a single pass. -/
def runOnce (p : Strategy) (e : Expr) : Run Report := do
  let (_, r) ← p.pass { expr := e }
  return r

end Strategy

/-- Remove guards by the usual strategy. -/
def withoutGuards (e : Expr) : Run Expr := do return (← Strategy.usual.run e).expr

end GuardErasure
