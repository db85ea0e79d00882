import GuardErasure.Proofs.Json.RoundTrip
import GuardErasure.Proofs.Stored.Expr
import GuardErasure.Proofs.Stored.Settings

namespace GuardErasure

/-!
# Storing loses nothing

`reads_stored` puts the two halves together: what is stored of types, values, expressions and settings
is written as a text, and whoever reads the text has them again.  The text is the business of a layer,
of which nothing is asked but that it reads back what it writes.
-/

/-- **Storing loses nothing.**  Whatever layer writes and reads the text, a type, a value and an
    expression is read back from its text if all floats in it are finite and the text keeps to the limit
    of nesting.  So are settings, and where members have been taken out of their document, exactly those
    have their defaults. -/
theorem reads_stored {l : Json.Layer} (hl : l.ReadsBack) :
    (∀ t : Ty, t.toJson.depth < Json.levelLimit →
      l.decode? Ty.ofJson? (l.write t.toJson) = some t) ∧
    (∀ v : Value, (∀ f ∈ v.floats, f.isFinite = true) → v.toJson.depth < Json.levelLimit →
      l.decode? Value.ofJson? (l.write v.toJson) = some v) ∧
    (∀ (e : Expr) (listed : Bool), (∀ f ∈ e.floats, f.isFinite = true) →
      e.toJson.depth < Json.levelLimit →
      l.decode? (Expr.ofJson? listed) (l.write e.toJson) = some e) ∧
    (∀ s : Settings, Settings.parse? l (s.print l) = some s) ∧
    ∀ (s : Settings) (keep : List String → Bool),
      Settings.parse? l (l.write (s.toJson.prune keep)) = some (s.resetting keep) := by
  refine ⟨fun t hdepth => ?_, fun v hfinite hdepth => ?_, fun e listed hfinite hdepth => ?_,
    Settings.parse?_print hl, fun s keep => Settings.parse?_prune hl keep s⟩
  · rw [Json.Layer.decode?_write hl t.writable_toJson hdepth]
    exact Ty.ofJson?_toJson hdepth
  · rw [Json.Layer.decode?_write hl v.writable_toJson hdepth]
    exact Value.ofJson?_toJson hfinite hdepth
  · rw [Json.Layer.decode?_write hl e.writable_toJson hdepth]
    exact Expr.ofJson?_toJson hfinite hdepth

/-- Floats, and a record in which an integer stands beside the float that equals it. -/
def halves : Value :=
  .list [.float64 1, .float64 1.5, .ofFields [("a", .int64 1), ("b", .float64 1)]]

/-- `q.HasValue.HasValue == null ? null.Half() : Half([1.0, 1.5, ...])`, where only the first of the two
    members is the test of a wrapper, and only the first of the two calls has a receiver. -/
def namesakes : Expr :=
  .cond
    (.binary .equal
      (.member (.member (.param "q" (.option .bool)) .hasValue .bool) (.named "HasValue") .bool)
      (.const .null .bool) .bool)
    (.callOn (.const .null .object) ⟨"Half", true⟩ [] .float64)
    (.call ⟨"Half", true⟩ [.const halves (.seq .object)] .float64) .float64

theorem floats_halves : halves.floats = [1, 1.5, 1] := rfl

theorem floats_namesakes : namesakes.floats = [1, 1.5, 1] := rfl

/-- Each of the two namesakes is read as what it was, and so is each of the two numbers that are equal,
    by the layer of the dense style. -/
theorem reads_stored_namesakes :
    (Json.Layer.ofStyle .dense).ReadsBack ∧
    (Ty.seq .object).toJson.depth < Json.levelLimit ∧
    (Json.Layer.ofStyle .dense).decode? Ty.ofJson? ((Ty.seq .object).toJson.write .dense)
      = some (.seq .object) ∧
    halves.toJson.depth < Json.levelLimit ∧
    (Json.Layer.ofStyle .dense).decode? Value.ofJson? (halves.toJson.write .dense) = some halves ∧
    namesakes.toJson.depth < Json.levelLimit ∧
    (Json.Layer.ofStyle .dense).decode? (Expr.ofJson? true) (namesakes.toJson.write .dense)
      = some namesakes := by
  have hlayer := Json.Layer.readsBack_ofStyle .dense
  have htype : (Ty.seq .object).toJson.depth < Json.levelLimit := by decide
  have hvalue : halves.toJson.depth < Json.levelLimit := by decide
  have htree : namesakes.toJson.depth < Json.levelLimit := by decide
  have hfloats : ∀ f ∈ [(1 : Float), 1.5, 1], f.isFinite = true := by
    simp only [List.forall_mem_cons, List.not_mem_nil, false_implies, implies_true, and_true]
    exact ⟨rfl, rfl, rfl⟩
  obtain ⟨hty, hval, hexpr, -⟩ := reads_stored hlayer
  have hhalves := hval halves (floats_halves ▸ hfloats) hvalue
  have hnamesakes := hexpr namesakes true (floats_namesakes ▸ hfloats) htree
  exact ⟨hlayer, htype, hty _ htype, hvalue, hhalves, htree, hnamesakes⟩

end GuardErasure
