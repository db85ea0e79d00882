import GuardErasure.Fault

namespace GuardErasure

/-!
# Batches of rows

Backends deliver the rows of a sequence in batches:

* `Delivery` — what is delivered, one item or fault after another, and `Batches`, where the items are
  batches of rows;
* `Combinators` — what deliveries are put together with, `Combinators.Lawful`, the laws of it, and
  `Combinators.plain`, on lists;
* `Batches.items`, `Batches.gather`, `Batches.total` — three ways to drain batches;
* `Cursor` — rows in memory that are delivered in batches of one size, and how far the delivery
  has got.
-/

/-- What is delivered one after another: items, some of which may fail. -/
abbrev Delivery (α : Type) := List (Except Fault α)

/-- Batches of rows, some of which may fail. -/
abbrev Batches := Delivery (List Value)

/-! ### Combinators -/

/-- What deliveries are put together with. -/
structure Combinators where
  /-- Another item in the place of each one. -/
  mapOk {α β : Type} : (α → β) → Delivery α → Delivery β
  /-- One delivery of what a delivery of deliveries delivers. -/
  tryFlatten {α : Type} : Delivery (Delivery α) → Delivery α
  /-- All items as a single one. -/
  tryConcat {α : Type} : Delivery (List α) → Except Fault (List α)

namespace Combinators

/-- **What combinators promise** of what is delivered first, and of what comes after it. -/
structure Lawful (c : Combinators) : Prop where
  /-- Items are mapped in their order, and faults stay. -/
  mapOk_nil {α β : Type} (f : α → β) : c.mapOk f [] = []
  mapOk_ok {α β : Type} (f : α → β) (x : α) (xs : Delivery α) :
    c.mapOk f (.ok x :: xs) = .ok (f x) :: c.mapOk f xs
  mapOk_error {α β : Type} (f : α → β) (g : Fault) (xs : Delivery α) :
    c.mapOk f (.error g :: xs) = .error g :: c.mapOk f xs
  /-- Inner deliveries come one after another, and the faults between them are passed on. -/
  tryFlatten_nil {α : Type} : c.tryFlatten ([] : Delivery (Delivery α)) = []
  tryFlatten_ok {α : Type} (inner : Delivery α) (xs : Delivery (Delivery α)) :
    c.tryFlatten (.ok inner :: xs) = inner ++ c.tryFlatten xs
  tryFlatten_error {α : Type} (g : Fault) (xs : Delivery (Delivery α)) :
    c.tryFlatten (.error g :: xs) = .error g :: c.tryFlatten xs
  /-- Nothing comes to the empty list, every item is followed by what the later ones come to, and the
      first fault is the end. -/
  tryConcat_nil {α : Type} : c.tryConcat ([] : Delivery (List α)) = .ok []
  tryConcat_ok {α : Type} (x : List α) (xs : Delivery (List α)) :
    c.tryConcat (.ok x :: xs) = (c.tryConcat xs).map (x ++ ·)
  tryConcat_error {α : Type} (g : Fault) (xs : Delivery (List α)) :
    c.tryConcat (.error g :: xs) = .error g

/-- The items up to the first fault as a single one. -/
def concatUpTo {α : Type} : Delivery (List α) → Except Fault (List α)
  | [] => .ok []
  | x :: xs => do return (← x) ++ (← concatUpTo xs)

/-- The combinators on lists. -/
def plain : Combinators where
  mapOk f xs := xs.map (·.map f)
  tryFlatten xs := xs.flatMap fun
    | .ok inner => inner
    | .error g => [.error g]
  tryConcat := concatUpTo

theorem plain_lawful : plain.Lawful where
  mapOk_nil _ := rfl
  mapOk_ok _ _ _ := rfl
  mapOk_error _ _ _ := rfl
  tryFlatten_nil := rfl
  tryFlatten_ok _ _ := rfl
  tryFlatten_error _ _ := rfl
  tryConcat_nil := rfl
  tryConcat_ok _ xs := by
    show (do return _ ++ (← concatUpTo xs)) = (concatUpTo xs).map _
    cases concatUpTo xs <;> rfl
  tryConcat_error _ _ := rfl

end Combinators

/-! ### Draining -/

namespace Batches

/-- The rows one by one; a batch that fails is a row that fails. -/
def items (bs : Batches) (c : Combinators) : Delivery Value :=
  c.tryFlatten (c.mapOk (fun batch => batch.map .ok) bs)

/-- All rows, or the first fault. -/
def gather (bs : Batches) (c : Combinators) : Except Fault (List Value) := c.tryConcat bs

/-- The number of rows, or the first fault. -/
def totalFrom (n : Nat) : Batches → Except Fault Nat
  | [] => .ok n
  | b :: bs => do totalFrom (n + (← b).length) bs

/-- The number of rows, or the first fault. -/
def total (bs : Batches) : Except Fault Nat := totalFrom 0 bs

end Batches

/-- Rows that are delivered in batches of one size, all but the last of them full. -/
structure Cursor where
  rows : List Value
  size : Nat
  /-- How many rows were delivered. -/
  index : Nat := 0
  size_pos : 0 < size

namespace Cursor

/-- A cursor before the first of some rows.  A size of zero counts as one. -/
def ofRows (rows : List Value) (size : Nat) : Cursor :=
  { rows, size := max size 1, size_pos := by omega }

/-- The next batch and the cursor behind it, if there are rows left. -/
def next? (c : Cursor) : Option (List Value × Cursor) :=
  if c.index < c.rows.length then
    let stop := min (c.index + c.size) c.rows.length
    some ((c.rows.drop c.index).take (stop - c.index), { c with index := stop })
  else none

/-- How many batches are still to come. -/
def remaining (c : Cursor) : Nat := (c.rows.length - c.index + (c.size - 1)) / c.size

/-- The next `n` batches, or all that are left. -/
def take : Nat → Cursor → List (List Value)
  | 0, _ => []
  | n + 1, c =>
    match c.next? with
    | some (batch, c) => batch :: take n c
    | none => []

/-- All batches that are still to come. -/
def batches (c : Cursor) : Batches := (c.take c.remaining).map .ok

end Cursor

end GuardErasure
