import GuardErasure.Guard.Erase
import GuardErasure.Expr.Nodes
import GuardErasure.Run
import GuardErasure.Settings

namespace GuardErasure

/-!
# Rules

A rule looks at a whole expression and gives one back, together with the answer to whether it
is another one:

* `Outcome` — an expression and that answer;
* `Rule` — rules;
* `Rule.guardRemoval` — remove the guards that the settings ask for;
* `Rule.Splicing`, `Rule.rootSplice` — put a source in the place of every root, and what is found on
  the way.
-/

/-- The expression that a rule gives back. -/
structure Outcome where
  expr : Expr
  /-- Is it another expression than the rule was given? -/
  changed : Bool

/-- A rule over whole expressions. -/
structure Rule where
  name : String
  summary : String
  act : Expr → Run Outcome

namespace Rule

/-! ### Removing guards -/

/-- The shape of the guards that the settings ask to remove. -/
def shapeOf (s : ErasureSettings) : Shape :=
  .either (if s.memberGuards then .on .member else .off)
    (if s.callGuards then .on .method else .off)

/-- Remove the guards that the settings ask for.  The rule trusts the count of removed guards:
    without one, the expression stays as it is. -/
def guardRemoval (s : ErasureSettings) : Rule where
  name := "NullGuardRemoval"
  summary := "Remove null-propagation guards and their companion null checks"
  act e :=
    if s.removesAny then
      let v := (shapeOf s).sweep false e
      let changed : Bool := 0 < v.notes.countP Note.isRemoval
      ⟨.ok ⟨if changed then v.change.result e else e, changed⟩, v.notes⟩
    else pure ⟨e, false⟩

/-! ### Putting a source in place of the root -/

/-- What putting a source in place has found on its way through a tree. -/
structure Splicing where
  /-- The elements of the last root that the source does not fit. -/
  misfit : Option Ty := none
  /-- How many roots have given way to the source. -/
  replaced : Nat := 0
deriving DecidableEq

/-- What becomes of a leaf, and what is found there: a root over the elements of the source gives way
    to it, and one over others is noted and stays. -/
def spliceLeaf (source leaf : Expr) (s : Splicing) : Change × Splicing :=
  match leaf with
  | .root element =>
    if source.ty.element? = some element then
      (.replace source, { s with replaced := s.replaced + 1 })
    else (.keep, { s with misfit := some element })
  | _ => (.keep, s)

/-- Put a source in the place of every root.  Every root has to be over the elements of the
    source; of several that are not, the last one is reported. -/
def rootSplice (source : Expr) : Rule where
  name := "ReplaceQueryRoot"
  summary := "Replace the composed-query placeholder with the engine's source"
  act e :=
    let (c, s) := e.transformLeaves (spliceLeaf source) {}
    match s.misfit with
    | some element => .fail (.rootMismatch element source.ty)
    | none => pure (if 0 < s.replaced then ⟨c.result e, true⟩ else ⟨e, false⟩)

end Rule

end GuardErasure
