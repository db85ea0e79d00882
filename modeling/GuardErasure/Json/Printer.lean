import GuardErasure.Decimal.Layout
import GuardErasure.Json.Basic

namespace GuardErasure.Json

/-!
# Writing JSON text

* `Style` — line breaks, and whether characters beyond ASCII are escaped;
* `Style.dense`, `Style.spread`, `Style.ascii` — the styles in use;
* `write` — a document as text.
-/

/-- How a document is laid out. -/
structure Style where
  /-- One member or item a line, two blanks deeper than what it is part of? -/
  broken : Bool
  /-- Are characters beyond ASCII escaped? -/
  asciiOnly : Bool

/-- No blanks, and every character that needs no escape as it is. -/
def Style.dense : Style := ⟨false, false⟩

/-- One member a line. -/
def Style.spread : Style := ⟨true, false⟩

/-- No blanks and nothing but ASCII. -/
def Style.ascii : Style := ⟨false, true⟩

/-- A 16-bit unit as a numeric escape. -/
def unitEscape (n : Nat) : String :=
  let hex := Nat.toDigits 16 n
  "\\u" ++ String.ofList (List.replicate (4 - hex.length) '0' ++ hex)

/-- A character inside a string. -/
def charText (asciiOnly : Bool) (c : Char) : String :=
  match c with
  | '"' => "\\\""
  | '\\' => "\\\\"
  | '\n' => "\\n"
  | '\r' => "\\r"
  | '\t' => "\\t"
  | '\x08' => "\\b"
  | '\x0c' => "\\f"
  | c =>
    if c.toNat < 0x20 ∨ (asciiOnly ∧ 0x7F ≤ c.toNat ∧ c.toNat < 0x10000) then
      unitEscape c.toNat
    else if asciiOnly ∧ 0x10000 ≤ c.toNat then
      let n := c.toNat - 0x10000
      unitEscape (0xD800 + n / 0x400) ++ unitEscape (0xDC00 + n % 0x400)
    else c.toString

/-- A string with its quotation marks. -/
def stringText (asciiOnly : Bool) (s : String) : String :=
  s.foldl (fun acc c => acc ++ charText asciiOnly c) "\"" ++ "\""

/-- A line break and the blanks of a level, in a style that breaks lines. -/
def Style.newline (style : Style) (level : Nat) : String :=
  if style.broken then "\n" ++ "".pushn ' ' (2 * level) else ""

mutual

/-- A document at some level of indentation. -/
def writeAt (style : Style) (level : Nat) : Json → String
  | null => "null"
  | bool b => if b then "true" else "false"
  | int i => toString i
  | real f => if f.isFinite then Decimal.Layout.compact.writeFinite f else "null"
  | string s => stringText style.asciiOnly (s.getD "")
  | array [] => "[]"
  | array (v :: vs) =>
    "[" ++ style.newline (level + 1) ++ writeAt style (level + 1) v ++
      writeItems style (level + 1) vs ++ style.newline level ++ "]"
  | object [] => "\x7b\x7d"
  | object (m :: ms) =>
    "\x7b" ++ writeMembers style (level + 1) true (m :: ms) ++ style.newline level ++ "\x7d"

/-- The items of an array after the first. -/
def writeItems (style : Style) (level : Nat) : List Json → String
  | [] => ""
  | v :: vs =>
    "," ++ style.newline level ++ writeAt style level v ++ writeItems style level vs

/-- Members of an object, from the first one or from a later one on. -/
def writeMembers (style : Style) (level : Nat) (first : Bool) :
    List (Option String × Json) → String
  | [] => ""
  | (name, v) :: ms =>
    (if first then "" else ",") ++ style.newline level ++
      stringText style.asciiOnly (name.getD "") ++ (if style.broken then ": " else ":") ++
      writeAt style level v ++ writeMembers style level false ms

end

/-- A document as text. -/
def write (style : Style) (v : Json) : String := writeAt style 0 v

end GuardErasure.Json
