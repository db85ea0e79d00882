import GuardErasure.Json.Layer
import GuardErasure.Proofs.Json.Shapes

namespace GuardErasure.Json

/-!
# What a layer promises

A text cannot hold every document: a string may be no proper one, an integer too large, a float no
number.

* `Writable` — the documents that a text can hold;
* `Layer.ReadsBack` — a layer reads back what it has written of them;
* `Layer.decode?_write` — so a reader makes of the text of a document what it makes of the document.
-/

/-- The documents that keep all that is in them when they are written. -/
inductive Writable : Json → Prop
  | null : Writable null
  | bool (b : Bool) : Writable (bool b)
  | int {i : Int} (hlow : Int64.minValue.toInt ≤ i) (hhigh : i < UInt64.size) : Writable (int i)
  | real {f : Float} (h : f.isFinite = true) : Writable (real f)
  | str (s : String) : Writable (str s)
  | array {items : List Json} (h : ∀ v ∈ items, Writable v) : Writable (array items)
  | object {members : List (Option String × Json)} (hnames : ∀ m ∈ members, m.1.isSome = true)
    (h : ∀ m ∈ members, Writable m.2) : Writable (object members)

/-- **A layer reads back** what it has written: every document that a text can hold, if it keeps to the
    limit of nesting. -/
def Layer.ReadsBack (l : Layer) : Prop :=
  ∀ j, Writable j → j.depth < levelLimit → l.read? (l.write j) = some j

theorem Layer.decode?_write {α : Type} {l : Layer} (hl : l.ReadsBack) {j : Json} (hj : Writable j)
    (hdepth : j.depth < levelLimit) (reader : Nat → Json → Option α) :
    l.decode? reader (l.write j) = reader levelLimit j := by
  rw [decode?, hl j hj hdepth]
  rfl

/-! ### Documents in the stored shapes -/

namespace Writable

theorem variant {c : Json} (hc : Writable c) (name : String) : Writable (Json.variant name c) := by
  refine .object (fun m hm => ?_) (fun m hm => ?_)
  · rw [List.mem_singleton.mp hm]
    rfl
  · rw [List.mem_singleton.mp hm]
    exact hc

theorem tagged {members : List (String × Json)} (h : ∀ m ∈ members, Writable m.2) :
    Writable (Json.object (Json.tagged members)) := by
  refine .object (fun m hm => ?_) (fun m hm => ?_)
  · obtain ⟨n, _, rfl⟩ := List.mem_map.mp hm
    rfl
  · obtain ⟨n, hn, rfl⟩ := List.mem_map.mp hm
    exact h n hn

theorem array_map {α : Type} {g : α → Json} {xs : List α} (h : ∀ x ∈ xs, Writable (g x)) :
    Writable (Json.array (xs.map g)) := by
  refine .array fun j hj => ?_
  obtain ⟨x, hx, rfl⟩ := List.mem_map.mp hj
  exact h x hx

end Writable

end GuardErasure.Json
