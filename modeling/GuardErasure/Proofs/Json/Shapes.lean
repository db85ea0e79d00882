import Mathlib.Data.List.Nodup
import GuardErasure.Json.Basic

namespace GuardErasure.Json

/-!
# Reading alternatives and structures

What is stored in the shapes of `Json` is found there again:

* `depth` — how deeply a document is nested, to be compared with the levels of a reader;
* `alternative?_variant` — an alternative has its name and its contents;
* `objectFields?_keeping` — a structure has its fields, and where some have been taken out of it, just
  those are missing;
* `mapM_map_eq_some` — a list is read if every item is.
-/

/-! ### Depth -/

mutual

/-- How deeply arrays and objects are nested in a document. -/
def depth : Json → Nat
  | array items => depthOfItems items + 1
  | object members => depthOfMembers members + 1
  | null | bool _ | int _ | real _ | string _ => 0

/-- The depth of the deepest item. -/
def depthOfItems : List Json → Nat
  | [] => 0
  | v :: vs => max (depth v) (depthOfItems vs)

/-- The depth of the deepest member. -/
def depthOfMembers : List (Option String × Json) → Nat
  | [] => 0
  | (_, v) :: ms => max (depth v) (depthOfMembers ms)

end

theorem depth_str (s : String) : (str s).depth = 0 := rfl

theorem depth_array (items : List Json) : (array items).depth = depthOfItems items + 1 := by
  rw [depth]

theorem depth_object (members : List (Option String × Json)) :
    (object members).depth = depthOfMembers members + 1 := by
  rw [depth]

theorem depth_variant (name : String) (c : Json) : (variant name c).depth = c.depth + 1 := by
  rw [variant, depth_object, depthOfMembers, depthOfMembers, Nat.max_zero]

theorem depth_le_of_mem {v : Json} {items : List Json} (h : v ∈ items) :
    v.depth ≤ depthOfItems items := by
  induction items with
  | nil => cases h
  | cons w ws ih =>
    rw [depthOfItems]
    rcases List.mem_cons.mp h with rfl | h
    · exact Nat.le_max_left _ _
    · exact Nat.le_trans (ih h) (Nat.le_max_right _ _)

theorem depth_le_of_member {m : Option String × Json} {members : List (Option String × Json)}
    (h : m ∈ members) : m.2.depth ≤ depthOfMembers members := by
  induction members with
  | nil => cases h
  | cons n ns ih =>
    rw [depthOfMembers]
    rcases List.mem_cons.mp h with rfl | h
    · exact Nat.le_max_left _ _
    · exact Nat.le_trans (ih h) (Nat.le_max_right _ _)

/-! ### Alternatives -/

/-- An alternative with contents has these, unless they are null. -/
theorem alternative?_variant {inside : Nat} (hinside : inside ≠ 0) {c : Json} (hc : c ≠ .null)
    (name : String) : (variant name c).alternative? inside = some (name, some c) := by
  cases c with
  | null => exact absurd rfl hc
  | _ => exact if_neg hinside

/-! ### Structures -/

/-- Members with proper names, as an object holds them. -/
def tagged (members : List (String × Json)) : List (Option String × Json) :=
  members.map fun (name, v) => (some name, v)

theorem depth_le_of_tagged {m : String × Json} {members : List (String × Json)}
    (h : m ∈ members) : m.2.depth ≤ depthOfMembers (tagged members) := by
  have hm : (some m.1, m.2) ∈ tagged members := List.mem_map.mpr ⟨m, h, rfl⟩
  exact depth_le_of_member hm

/-- The members that are left if only those of certain names are kept. -/
def keeping (keep : String → Bool) (members : List (String × Json)) : List (String × Json) :=
  members.filter fun m => keep m.1

theorem keeping_all (members : List (String × Json)) : keeping (fun _ => true) members = members :=
  List.filter_true members

/-- Where every name is given once, the members of one name are one member. -/
theorem filter_name {members : List (String × Json)} (hnames : (members.map Prod.fst).Nodup)
    {m : String × Json} (hm : m ∈ members) : members.filter (fun n => n.1 == m.1) = [m] := by
  induction members with
  | nil => cases hm
  | cons n ns ih =>
    rw [List.map_cons, List.nodup_cons] at hnames
    obtain ⟨hfresh, hrest⟩ := hnames
    rcases List.mem_cons.mp hm with rfl | hm
    · have hnone : ns.filter (fun k => k.1 == m.1) = [] := by
        rw [List.filter_eq_nil_iff]
        intro k hk heq
        exact hfresh (List.mem_map.mpr ⟨k, hk, beq_iff_eq.mp heq⟩)
      rw [List.filter_cons, if_pos (beq_self_eq_true m.1), hnone]
    · have hne : ¬(n.1 == m.1) = true := by
        intro heq
        exact hfresh (List.mem_map.mpr ⟨m, hm, (beq_iff_eq.mp heq).symm⟩)
      rw [List.filter_cons, if_neg hne, ih hrest hm]

/-- A member is found by its name, if it was kept. -/
theorem member?_keeping {members : List (String × Json)} (hnames : (members.map Prod.fst).Nodup)
    (keep : String → Bool) {m : String × Json} (hm : m ∈ members) :
    member? (tagged (keeping keep members)) m.1 = some (if keep m.1 then some m.2 else none) := by
  have hfilter : (tagged (keeping keep members)).filter (·.1 == some m.1)
      = tagged (keeping keep [m]) := by
    rw [← filter_name hnames hm, tagged, tagged, keeping, keeping, List.filter_map,
      List.filter_filter, List.filter_filter]
    refine congrArg (List.map _) (List.filter_congr fun n _ => ?_)
    rw [Bool.and_comm]
    rfl
  rw [member?, hfilter]
  cases hkeep : keep m.1 <;> simp [keeping, tagged, hkeep]

/-! ### Lists -/

/-- A list is read if every item is. -/
theorem mapM_map_eq_some {α β γ : Type} {f : β → Option γ} {g : α → β} {h : α → γ} {xs : List α}
    (hf : ∀ x ∈ xs, f (g x) = some (h x)) : (xs.map g).mapM f = some (xs.map h) := by
  induction xs with
  | nil => rfl
  | cons x xs ih =>
    rw [List.map_cons, List.mapM_cons, hf x (by simp), ih (fun y hy => hf y (by simp [hy]))]
    rfl

/-! ### Whole structures -/

/-- **The fields of a structure**, each of which is kept or left out. -/
theorem objectFields?_keeping {members : List (String × Json)}
    (hnames : (members.map Prod.fst).Nodup) (keep : String → Bool) :
    objectFields? (members.map Prod.fst) (tagged (keeping keep members))
      = some (members.map fun m => if keep m.1 then some m.2 else none) := by
  have hproper : (tagged (keeping keep members)).any (·.1.isNone) = false := by
    simp [tagged]
  rw [objectFields?, hproper]
  exact mapM_map_eq_some (fun m hm => member?_keeping hnames keep hm)

/-- A structure of which no field is left out. -/
theorem objectFields?_tagged {members : List (String × Json)}
    (hnames : (members.map Prod.fst).Nodup) :
    objectFields? (members.map Prod.fst) (tagged members)
      = some (members.map fun m => some m.2) := by
  have hkeeping := objectFields?_keeping hnames (fun _ => true)
  rw [keeping_all] at hkeeping
  exact hkeeping

theorem fields?_record (members : List (String × Json)) (hnames : (members.map Prod.fst).Nodup) :
    (record members).fields? (members.map Prod.fst) = some (members.map fun m => some m.2) :=
  objectFields?_tagged hnames

theorem namedFields?_record (members : List (String × Json))
    (hnames : (members.map Prod.fst).Nodup) :
    (record members).namedFields? (members.map Prod.fst) = some (members.map fun m => some m.2) :=
  objectFields?_tagged hnames

theorem depth_record (members : List (String × Json)) :
    (record members).depth = depthOfMembers (tagged members) + 1 := depth_object _

end GuardErasure.Json
