import GuardErasure.Text.CharClass

namespace GuardErasure.Text

/-!
# Lines, blanks and substrings

* `lines` — the lines of a text, each ended by a line feed or by a carriage return and a
  line feed; `indentLines` puts a lead in front of each;
* `trimmed` — a text without the blanks at its two ends;
* `holds`, `opensWith`, `closesWith` — does one text occur inside another, at its start,
  at its end.
-/

/-! ### Lines -/

/-- Take a carriage return off the end of a line, given in reverse. -/
def dropReturn : List Char → List Char
  | '\r' :: cs => cs
  | cs => cs

/-- The lines of the rest of a text, given the characters of the current line in reverse.
    Only a line feed ends a line; what follows the last one is a line if it is not empty. -/
def linesFrom (current : List Char) : List Char → List (List Char)
  | [] => if current.isEmpty then [] else [current.reverse]
  | '\n' :: rest => (dropReturn current).reverse :: linesFrom [] rest
  | c :: rest => linesFrom (c :: current) rest

/-- The lines of a text, without what ends them. -/
def lines (s : String) : List String := (linesFrom [] s.toList).map String.ofList

/-- A text with a lead in front of every line and a line feed between the lines. -/
def indentLines (s lead : String) : String :=
  "\n".intercalate ((lines s).map (lead ++ ·))

/-! ### Blanks -/

/-- A text without the blanks at its start and at its end. -/
def trimmed (s : String) : String :=
  let front := s.toList.dropWhile whiteSpace.has
  String.ofList (front.reverse.dropWhile whiteSpace.has).reverse

/-! ### Substrings -/

/-- Is one list of characters a run of consecutive characters of another? -/
def occursIn (part : List Char) : List Char → Bool
  | [] => part.isEmpty
  | c :: cs => part.isPrefixOf (c :: cs) || occursIn part cs

/-- Does `part` occur in `s`? -/
def holds (s part : String) : Bool := occursIn part.toList s.toList

/-- Does `s` start with `part`? -/
def opensWith (s part : String) : Bool := part.toList.isPrefixOf s.toList

/-- Does `s` end with `part`? -/
def closesWith (s part : String) : Bool := part.toList.isSuffixOf s.toList

end GuardErasure.Text
