import GuardErasure.Proofs.Stored.Model
import GuardErasure.Settings

namespace GuardErasure

/-!
# Stored settings are read back, whole or in part

* `Json.prune` — a document without some of its members, whole sections or single fields of one;
* `Settings.resetting` — settings with the defaults in place of those that were not kept;
* `Settings.parse?_prune` — where members have been taken out of stored settings, exactly those have
  their defaults, and where none has, the settings are read back (`Settings.parse?_print`).
-/

namespace Json

/-! ### Documents with members taken out -/

mutual

/-- The document without the members whose path is not kept.  The path of a member is its name,
    after those of the members around it. -/
def prune (keep : List String → Bool) : Json → Json
  | object members => object (pruneMembers keep members)
  | j => j

/-- The members whose path is kept, each pruned in turn. -/
def pruneMembers (keep : List String → Bool) :
    List (Option String × Json) → List (Option String × Json)
  | [] => []
  | (none, v) :: rest => (none, v) :: pruneMembers keep rest
  | (some name, v) :: rest =>
    if keep [name] then
      (some name, prune (fun path => keep (name :: path)) v) :: pruneMembers keep rest
    else pruneMembers keep rest

end

/-- A structure keeps some of its fields, and these are pruned. -/
theorem prune_record (keep : List String → Bool) (members : List (String × Json)) :
    (record members).prune keep
      = object (tagged (keeping (fun name => keep [name])
          (members.map fun m => (m.1, m.2.prune fun path => keep (m.1 :: path))))) := by
  rw [record, prune]
  refine congrArg object ?_
  induction members with
  | nil => rfl
  | cons m ms ih =>
    rw [List.map_cons, pruneMembers, ih, List.map_cons, keeping, keeping, List.filter_cons]
    split <;> rfl

/-- The fields that are found in a pruned structure. -/
theorem fieldsOrFewer?_prune (keep : List String → Bool) (members : List (String × Json))
    (hnames : (members.map Prod.fst).Nodup) :
    ((record members).prune keep).fieldsOrFewer? (members.map Prod.fst)
      = some (members.map fun m =>
          if keep [m.1] then some (m.2.prune fun path => keep (m.1 :: path)) else none) := by
  have hmap : (members.map fun m => (m.1, m.2.prune fun path => keep (m.1 :: path))).map Prod.fst
      = members.map Prod.fst := by
    rw [List.map_map]
    rfl
  have hfields := objectFields?_keeping (hmap ▸ hnames) (fun name => keep [name])
  rw [hmap, List.map_map] at hfields
  rw [prune_record]
  exact hfields

mutual

/-- Without some of its members a document is nested no deeper. -/
theorem depth_prune_le (keep : List String → Bool) (j : Json) : (j.prune keep).depth ≤ j.depth := by
  cases j with
  | object members =>
    rw [prune, depth_object, depth_object]
    exact Nat.succ_le_succ (depthOfMembers_prune_le keep members)
  | _ => exact Nat.le_refl _

theorem depthOfMembers_prune_le (keep : List String → Bool) (members : List (Option String × Json)) :
    depthOfMembers (pruneMembers keep members) ≤ depthOfMembers members := by
  cases members with
  | nil => exact Nat.le_refl _
  | cons m ms =>
    obtain ⟨name, v⟩ := m
    have hrest := depthOfMembers_prune_le keep ms
    cases name with
    | none =>
      rw [pruneMembers, depthOfMembers, depthOfMembers]
      omega
    | some name =>
      rw [pruneMembers]
      split
      · have hv := depth_prune_le (fun path => keep (name :: path)) v
        rw [depthOfMembers, depthOfMembers]
        omega
      · rw [depthOfMembers]
        omega

end

theorem Writable.prune {keep : List String → Bool} {members : List (String × Json)}
    (h : ∀ m ∈ members, Writable (m.2.prune fun path => keep (m.1 :: path))) :
    Writable ((record members).prune keep) := by
  rw [prune_record]
  refine .tagged fun m hm => ?_
  obtain ⟨n, hn, rfl⟩ := List.mem_map.mp (List.mem_of_mem_filter hm)
  exact h n hn

theorem bool?_bool (b : Bool) : (bool b).bool? = some b := rfl

theorem uint64?_toNat (n : UInt64) : (int n.toNat).uint64? = some n := by
  have hsize : (n.toNat : Int) < UInt64.size := Int.ofNat_lt.mpr n.toNat_lt_size
  rw [uint64?, if_pos ⟨Int.natCast_nonneg _, hsize⟩, Int.toNat_natCast, UInt64.ofNat_toNat]

theorem writable_toNat (n : UInt64) : Writable (int n.toNat) :=
  .int (Int.le_trans (by decide) (Int.natCast_nonneg _)) (Int.ofNat_lt.mpr n.toNat_lt_size)

/-- A field that may be left out is read where it was kept, and has its default elsewhere. -/
theorem elim_kept {α : Type} {read : Json → Option α} {j : Json} {a : α} (h : read j = some a)
    (kept : Bool) (usual : α) :
    (if kept then some j else none).elim (some usual) read = some (if kept then a else usual) := by
  cases kept with
  | true => exact h
  | false => rfl

end Json

open Json (Writable)

/-! ### Sections -/

namespace ErasureSettings

/-- The settings, with its default for each one whose path is not kept. -/
def resetting (keep : List String → Bool) (s : ErasureSettings) : ErasureSettings :=
  let usual : ErasureSettings := {}
  { memberGuards := if keep ["member_unwrap"] then s.memberGuards else usual.memberGuards
    callGuards := if keep ["method_unwrap"] then s.callGuards else usual.callGuards
    maxPasses := if keep ["max_passes"] then s.maxPasses else usual.maxPasses
    keepTrace := if keep ["enable_trace"] then s.keepTrace else usual.keepTrace }

/-- **The erasure section** is read back from what is left of it. -/
theorem ofJson?_prune (keep : List String → Bool) (s : ErasureSettings) :
    ofJson? (s.toJson.prune keep) = some (s.resetting keep) := by
  have hfields := Json.fieldsOrFewer?_prune keep
    [("member_unwrap", .bool s.memberGuards), ("method_unwrap", .bool s.callGuards),
      ("max_passes", .int s.maxPasses.toNat), ("enable_trace", .bool s.keepTrace)]
    (show ["member_unwrap", "method_unwrap", "max_passes", "enable_trace"].Nodup by decide)
  simp only [List.map_cons, List.map_nil, Json.prune] at hfields
  rw [ofJson?, toJson, hfields]
  simp only [Option.bind_eq_bind, Option.bind_some, Json.elim_kept (Json.bool?_bool _),
    Json.elim_kept (Json.uint64?_toNat _)]
  rfl

theorem writable_prune (keep : List String → Bool) (s : ErasureSettings) :
    Writable (s.toJson.prune keep) := by
  refine .prune ?_
  simp [Json.prune, Writable.bool, Json.writable_toNat]

end ErasureSettings

namespace MemorySettings

/-- The settings, with its default for each one whose path is not kept. -/
def resetting (keep : List String → Bool) (s : MemorySettings) : MemorySettings :=
  let usual : MemorySettings := {}
  { strict := if keep ["strict"] then s.strict else usual.strict
    batchSize := if keep ["batch_size"] then s.batchSize else usual.batchSize }

/-- **The section of the in-memory backend** is read back from what is left of it. -/
theorem ofJson?_prune (keep : List String → Bool) (s : MemorySettings) :
    ofJson? (s.toJson.prune keep) = some (s.resetting keep) := by
  have hfields := Json.fieldsOrFewer?_prune keep
    [("strict", .bool s.strict), ("batch_size", .int s.batchSize.toNat)]
    (show ["strict", "batch_size"].Nodup by decide)
  simp only [List.map_cons, List.map_nil, Json.prune] at hfields
  rw [ofJson?, toJson, hfields]
  simp only [Option.bind_eq_bind, Option.bind_some, Json.elim_kept (Json.bool?_bool _),
    Json.elim_kept (Json.uint64?_toNat _)]
  rfl

theorem writable_prune (keep : List String → Bool) (s : MemorySettings) :
    Writable (s.toJson.prune keep) := by
  refine .prune ?_
  simp [Json.prune, Writable.bool, Json.writable_toNat]

end MemorySettings

/-! ### All settings -/

namespace Settings

/-- The settings, with the defaults for each section and each field of one whose path is not kept. -/
def resetting (keep : List String → Bool) (s : Settings) : Settings where
  erasure := if keep ["rewrite"] then s.erasure.resetting fun path => keep ("rewrite" :: path) else {}
  memory := if keep ["engine"] then s.memory.resetting fun path => keep ("engine" :: path) else {}

/-- Settings are as they were if all is kept. -/
theorem resetting_all (s : Settings) : s.resetting (fun _ => true) = s := rfl

theorem prune_all (s : Settings) : s.toJson.prune (fun _ => true) = s.toJson := rfl

theorem ofJson?_prune (keep : List String → Bool) (s : Settings) :
    ofJson? (s.toJson.prune keep) = some (s.resetting keep) := by
  have hfields := Json.fieldsOrFewer?_prune keep
    [("rewrite", s.erasure.toJson), ("engine", s.memory.toJson)]
    (show ["rewrite", "engine"].Nodup by decide)
  simp only [List.map_cons, List.map_nil] at hfields
  rw [ofJson?, toJson, hfields]
  simp only [Option.bind_eq_bind, Option.bind_some, Json.elim_kept (s.erasure.ofJson?_prune _),
    Json.elim_kept (s.memory.ofJson?_prune _)]
  rfl

theorem writable_prune (keep : List String → Bool) (s : Settings) :
    Writable (s.toJson.prune keep) := by
  refine .prune ?_
  simp [ErasureSettings.writable_prune, MemorySettings.writable_prune]

/-- What is left of settings keeps to the limit of nesting. -/
theorem depth_prune_lt (keep : List String → Bool) (s : Settings) :
    (s.toJson.prune keep).depth < Json.levelLimit :=
  Nat.lt_of_le_of_lt (Json.depth_prune_le keep s.toJson) (show 2 < 128 by decide)

section Layer

variable {l : Json.Layer} (hl : l.ReadsBack)

include hl

/-- **Stored settings** are read back from what is left of them, with the defaults for the rest. -/
theorem parse?_prune (keep : List String → Bool) (s : Settings) :
    parse? l (l.write (s.toJson.prune keep)) = some (s.resetting keep) := by
  rw [parse?, hl _ (writable_prune keep s) (depth_prune_lt keep s)]
  exact ofJson?_prune keep s

/-- Printed settings are read back. -/
theorem parse?_print (s : Settings) : parse? l (s.print l) = some s := by
  have hall := parse?_prune hl (fun _ => true) s
  rwa [prune_all, resetting_all] at hall

end Layer

end Settings

end GuardErasure
