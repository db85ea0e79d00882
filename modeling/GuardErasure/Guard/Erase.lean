import GuardErasure.Change
import GuardErasure.Guard.Shape
import GuardErasure.Note

namespace GuardErasure

/-!
# Erasing guards

The pass sweeps a tree from the top down.  A guard gives way to the part of it that is used,
which is then swept *inside* the guard.  There the checks that the same lowering put beside
the guard go as well: conversions to a nullable truth value are stripped, tests for not-null
are dropped and their sibling stays, and any further choice on null gives way to its second
branch.

* `Sweep` — what becomes of a node, and the notes that were taken;
* `Shape.sweep` — the pass;
* `Shape.erase` — the tree that is left, and `Shape.removals` — how many guards went;
* `eraseMemberGuards`, `eraseMethodGuards`, `eraseGuards` — the pass for the basic shapes;
* `Eraser` — a run of the pass over several trees, with a running count.
-/

/-- What becomes of a node, and what there is to tell about it. -/
structure Sweep where
  change : Change
  notes : List Note

namespace Sweep

/-- A sweep that changes nothing. -/
def nothing : Sweep := ⟨.keep, []⟩

/-- The sweep of a node with one part. -/
def inParent (v : Sweep) (rebuild : Expr → Expr) : Sweep :=
  ⟨v.change.inParent rebuild, v.notes⟩

/-- The sweep of a node that gives way to one of its parts. -/
def inPlaceOf (part : Expr) (note : Note) (v : Sweep) : Sweep :=
  ⟨v.change.inPlaceOf part, note :: v.notes⟩

/-- The sweep of a binary operation inside a guard.  A dropped operand leaves its sibling,
    and a test for not-null is dropped. -/
def inBinary (op : BinOp) (left right : Expr) (l r : Sweep) : Sweep :=
  let notes := l.notes ++ r.notes
  match l.change.left? left, r.change.left? right with
  | none, _ => ⟨r.change.inPlaceOf right, notes⟩
  | _, none => ⟨l.change.inPlaceOf left, notes⟩
  | some left', some right' =>
    if op = .notEqual ∧ (left'.isNullLiteral ∨ right'.isNullLiteral) then
      ⟨.drop, notes ++ [.companionDropped left' right']⟩
    else if l.change.isChange ∨ r.change.isChange then ⟨.replace (left'.combine op right'), notes⟩
    else ⟨.keep, notes⟩

end Sweep

namespace Shape

mutual

/-- Sweep a tree, inside a guard or not. -/
def sweep (s : Shape) (inside : Bool) : Expr → Sweep
  | .member owner name t => (sweep s inside owner).inParent (.member · name t)
  | .callOn receiver m args t =>
    let r := sweep s inside receiver
    let (newArgs, notes) := sweepArgs s inside args
    ⟨.inCallOn receiver m args t r.change newArgs, r.notes ++ notes⟩
  | .call m args t =>
    let (newArgs, notes) := sweepArgs s inside args
    ⟨.inCall m t newArgs, notes⟩
  | .unary op operand t =>
    if inside ∧ op = .convert ∧ t.isOptionBool then
      (sweep s inside operand).inPlaceOf operand (.conversionStripped t)
    else (sweep s inside operand).inParent (.unary op · t)
  | .binary op left right _ =>
    let l := sweep s inside left
    let r := sweep s inside right
    if inside then Sweep.inBinary op left right l r
    else ⟨.inBinary op left right l.change r.change, l.notes ++ r.notes⟩
  | .cond test ifTrue ifFalse t =>
    match s.guard? test ifTrue ifFalse with
    | some (path, .owner) => sweepOwner s (.guardRemoved s.name path) ifFalse
    | some (path, .whole) =>
      (sweep s true ifFalse).inPlaceOf ifFalse (.guardRemoved s.name path)
    | none =>
      if inside ∧ test.isNullCheck then
        (sweep s inside ifFalse).inPlaceOf ifFalse (.guardCollapsed test)
      else
        let a := sweep s inside test
        let b := sweep s inside ifTrue
        let c := sweep s inside ifFalse
        ⟨.inCond test ifTrue ifFalse t a.change b.change c.change,
          a.notes ++ b.notes ++ c.notes⟩
  | .lambda params body => (sweep s inside body).inParent (.lambda params ·)
  | .const .. | .param .. | .root .. | .source .. | .foreign .. => .nothing

/-- Sweep, inside a guard, the owner that a member read gives way to.  An expression without
    an owner gives way to nothing but itself. -/
def sweepOwner (s : Shape) (note : Note) : Expr → Sweep
  | .member owner _ _ => (sweep s true owner).inPlaceOf owner note
  | e => ⟨.replace e, [note]⟩

/-- Sweep the arguments of a call: the new ones, if any of them changes, and the notes. -/
def sweepArgs (s : Shape) (inside : Bool) : List Expr → Option (List Expr) × List Note
  | [] => (none, [])
  | e :: es =>
    let v := sweep s inside e
    let (rest, notes) := sweepArgs s inside es
    (Change.consArg e v.change es rest, v.notes ++ notes)

end

/-- The tree that is left when every guard of this shape is removed.  A tree that is dropped
    as a whole leaves `true`. -/
def erase (s : Shape) (e : Expr) : Expr := (s.sweep false e).change.result e

/-- How many guards of this shape are removed from a tree. -/
def removals (s : Shape) (e : Expr) : Nat := (s.sweep false e).notes.countP Note.isRemoval

/-- Both basic shapes, the member shape first. -/
def both : Shape := .either .member .method

end Shape

/-- Remove the guards around reads of a wrapper's value:
    `p.Flag == null ? false : p.Flag.Value` becomes `p.Flag`. -/
def eraseMemberGuards (e : Expr) : Expr := Shape.member.erase e

/-- Remove the guards around calls: `p.Name == null ? "k" : p.Name.to_lower()` becomes
    `p.Name.to_lower()`. -/
def eraseMethodGuards (e : Expr) : Expr := Shape.method.erase e

/-- Remove the guards of both basic shapes in one pass. -/
def eraseGuards (e : Expr) : Expr := Shape.both.erase e

/-! ### Several trees in a row -/

/-- A run of the pass over one tree after another. -/
structure Eraser where
  shape : Shape
  /-- Is the run inside a guard?  It is between two trees only if it was to begin with. -/
  inside : Bool := false
  /-- How many guards were removed so far. -/
  removed : Nat := 0

namespace Eraser

/-- Sweep one more tree: what becomes of it, the run after it, and the notes. -/
def sweep (r : Eraser) (e : Expr) : Change × Eraser × List Note :=
  let v := r.shape.sweep r.inside e
  (v.change, { r with removed := r.removed + v.notes.countP Note.isRemoval }, v.notes)

/-- Erase the guards of one more tree. -/
def erase (r : Eraser) (e : Expr) : Expr × Eraser :=
  let (c, r, _) := r.sweep e
  (c.result e, r)

/-- Erase the guards of several trees in turn. -/
def eraseAll (r : Eraser) : List Expr → List Expr × Eraser
  | [] => ([], r)
  | e :: es =>
    let (e', r) := r.erase e
    let (es', r) := r.eraseAll es
    (e' :: es', r)

end Eraser

end GuardErasure
