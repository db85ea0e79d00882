import GuardErasure.Json.Layer

namespace GuardErasure

/-!
# Settings

* `ErasureSettings` — which guards are removed, and how often the rules run;
* `MemorySettings` — how the in-memory backend behaves;
* `Settings` — both, with `Settings.parse?` and `Settings.print` for stored settings;
* `version` — the version that they are settings of.

Every stored field may be left out and then has its default.
-/

/-- The version of the library. -/
def version : String := "0.1.0"

/-- Which guards are removed, and how the rules run. -/
structure ErasureSettings where
  /-- Remove guards around a read of a nullable wrapper's value? -/
  memberGuards : Bool := true
  /-- Remove guards around a call? -/
  callGuards : Bool := true
  /-- How many passes the rules may make; none counts as one. -/
  maxPasses : UInt64 := 1
  /-- Keep a record of every rule that changed the tree? -/
  keepTrace : Bool := false
deriving DecidableEq

/-- How the in-memory backend behaves. -/
structure MemorySettings where
  /-- Refuse queries with a choice in them? -/
  strict : Bool := false
  /-- The number of rows in a batch; none counts as one. -/
  batchSize : UInt64 := 1024
deriving DecidableEq

/-- All settings. -/
structure Settings where
  erasure : ErasureSettings := {}
  memory : MemorySettings := {}
deriving DecidableEq

namespace ErasureSettings

/-- Remove guards around member reads only. -/
def membersOnly : ErasureSettings := { callGuards := false }

/-- Remove guards around calls only. -/
def callsOnly : ErasureSettings := { memberGuards := false }

/-- Is any sort of guard removed? -/
def removesAny (s : ErasureSettings) : Bool := s.memberGuards || s.callGuards

/-- The settings as they are shown in messages. -/
def text (s : ErasureSettings) : String :=
  "RewriteConfig \x7b member_unwrap: " ++ toString s.memberGuards ++
    ", method_unwrap: " ++ toString s.callGuards ++
    ", max_passes: " ++ toString s.maxPasses.toNat ++
    ", enable_trace: " ++ toString s.keepTrace ++ " \x7d"

/-! ### Storage -/

/-- The settings as a document. -/
def toJson (s : ErasureSettings) : Json :=
  .record
    [("member_unwrap", .bool s.memberGuards), ("method_unwrap", .bool s.callGuards),
     ("max_passes", .int s.maxPasses.toNat), ("enable_trace", .bool s.keepTrace)]

/-- The settings that a document stands for. -/
def ofJson? (j : Json) : Option ErasureSettings := do
  match ← j.fieldsOrFewer? ["member_unwrap", "method_unwrap", "max_passes", "enable_trace"] with
  | [member, method, passes, trace] =>
    let usual : ErasureSettings := {}
    return {
      memberGuards := ← member.elim (some usual.memberGuards) Json.bool?
      callGuards := ← method.elim (some usual.callGuards) Json.bool?
      maxPasses := ← passes.elim (some usual.maxPasses) Json.uint64?
      keepTrace := ← trace.elim (some usual.keepTrace) Json.bool? }
  | _ => none

end ErasureSettings

namespace MemorySettings

/-- Refuse choices; all else by default. -/
def strictly : MemorySettings := { strict := true }

/-- The settings as a document. -/
def toJson (s : MemorySettings) : Json :=
  .record [("strict", .bool s.strict), ("batch_size", .int s.batchSize.toNat)]

/-- The settings that a document stands for. -/
def ofJson? (j : Json) : Option MemorySettings := do
  match ← j.fieldsOrFewer? ["strict", "batch_size"] with
  | [strict, size] =>
    let usual : MemorySettings := {}
    return {
      strict := ← strict.elim (some usual.strict) Json.bool?
      batchSize := ← size.elim (some usual.batchSize) Json.uint64? }
  | _ => none

end MemorySettings

namespace Settings

/-- The settings as a document. -/
def toJson (s : Settings) : Json :=
  .record [("rewrite", s.erasure.toJson), ("engine", s.memory.toJson)]

/-- The settings that a document stands for. -/
def ofJson? (j : Json) : Option Settings := do
  match ← j.fieldsOrFewer? ["rewrite", "engine"] with
  | [erasure, memory] =>
    return {
      erasure := ← erasure.elim (some {}) ErasureSettings.ofJson?
      memory := ← memory.elim (some {}) MemorySettings.ofJson? }
  | _ => none

/-- The settings that a text holds. -/
def parse? (l : Json.Layer) (s : String) : Option Settings := (l.read? s).bind ofJson?

/-- The settings as a text. -/
def print (s : Settings) (l : Json.Layer) : String := l.write s.toJson

end Settings

end GuardErasure
