import GuardErasure.Expr.Text

namespace GuardErasure

/-!
# Notes

What the library tells about its work while it works: `Note` lists the occasions and
`Note.line?` gives the wording, with a level in front, of those that have one.
-/

/-- Something worth telling. -/
inductive Note where
  /-- A guard of some shape was removed from around a path. -/
  | guardRemoved (shape : String) (path : Expr)
  /-- A conversion to a nullable truth value was taken off. -/
  | conversionStripped (target : Ty)
  /-- A test for not-null was dropped. -/
  | companionDropped (left right : Expr)
  /-- A choice inside a guard gave way to its second branch. -/
  | guardCollapsed (test : Expr)
  /-- A rule changed the tree. -/
  | ruleApplied (rule : String) (pass : Nat)
  /-- No rule changed the tree in a pass. -/
  | fixpoint (pass : Nat)
  /-- The passes are used up. -/
  | passesSpent (limit : Nat)
  /-- An expression is ready for a backend. -/
  | prepared (backend : String) (applied : Nat) (e : Expr)
  /-- The account of a preparation. -/
  | account (text : String)
  /-- A backend starts on an expression. -/
  | running (backend : String) (e : Expr)
  /-- A backend was handed an expression; this goes without saying. -/
  | received (e : Expr)

namespace Note

/-- Is this a finer detail? -/
def isFine : Note → Bool
  | conversionStripped .. | companionDropped .. | guardCollapsed .. | account .. => true
  | _ => false

/-- Does the note tell of a removed guard? -/
def isRemoval : Note → Bool
  | guardRemoved .. => true
  | _ => false

/-- The expression that a backend was handed. -/
def received? : Note → Option Expr
  | received e => some e
  | _ => none

/-- The wording of a note. -/
def text? : Note → Option String
  | guardRemoved shape path => some s!"Removing {shape} null guard on {path.text}"
  | conversionStripped target => some s!"Stripping conversion to {target.text}"
  | companionDropped left right => some s!"Eliding companion check {left.text} != {right.text}"
  | guardCollapsed test => some s!"Collapsing nested guard on {test.text}"
  | ruleApplied rule pass => some s!"Rule '{rule}' applied in pass {pass}"
  | fixpoint pass => some s!"No changes in pass {pass}, reached fixpoint"
  | passesSpent limit => some s!"Rewrite reached max passes ({limit}), stopping"
  | prepared backend applied e =>
    some s!"Prepared query for {backend} ({applied} rules applied): {e.text}"
  | account t => some t
  | running backend e => some s!"{backend} running {e.text}"
  | received _ => none

/-- The line of a note: its level and its wording. -/
def line? (n : Note) : Option String :=
  n.text?.map ((if n.isFine then "TRACE: " else "DEBUG: ") ++ ·)

end Note

end GuardErasure
