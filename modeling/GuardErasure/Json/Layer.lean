import GuardErasure.Json.Parser
import GuardErasure.Json.Printer

namespace GuardErasure.Json

/-!
# JSON layers

Whoever stores something makes a document of it and leaves the text to a layer:

* `Layer` — a way to write documents and to read them;
* `Layer.decode?` — what a reader makes of the document that a text holds;
* `Layer.ofStyle` — the layer that writes documents in a style.
-/

/-- A way to write documents as texts, and to read texts as documents. -/
structure Layer where
  write : Json → String
  read? : String → Option Json

namespace Layer

/-- What a reader makes of the document that a text holds. -/
def decode? {α : Type} (l : Layer) (reader : Nat → Json → Option α) (s : String) : Option α :=
  (l.read? s).bind (reader levelLimit)

/-- The layer that writes documents in a style. -/
def ofStyle (style : Style) : Layer := ⟨Json.write style, parse?⟩

end Layer

end GuardErasure.Json
