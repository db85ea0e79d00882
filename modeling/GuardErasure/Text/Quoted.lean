import GuardErasure.Text.CharClass

namespace GuardErasure.Text

/-!
# Quoted text

Text inside a message is written between quotation marks, so that where it begins and ends
can be seen and every character of it is visible:

* `quoteChar` — one character, escaped if it has to be;
* `quoted` — a whole text with its quotation marks.
-/

/-- Does a character need a numeric escape?  So does each one that is not visible by
    itself; a plain space stays. -/
def isHidden (c : Char) : Bool :=
  if 0x20 ≤ c.toNat ∧ c.toNat < 0x7F then false
  else combining.has c || defaultIgnorable.has c || unprintable.has c

/-- A character as it stands inside quotation marks. -/
def quoteChar (c : Char) : List Char :=
  match c with
  | '"' => ['\\', '"']
  | '\\' => ['\\', '\\']
  | '\n' => ['\\', 'n']
  | '\r' => ['\\', 'r']
  | '\t' => ['\\', 't']
  | '\x00' => ['\\', '0']
  | c =>
    if isHidden c then '\\' :: 'u' :: '\x7b' :: Nat.toDigits 16 c.toNat ++ ['\x7d'] else [c]

/-- A text between quotation marks. -/
def quoted (s : String) : String :=
  String.ofList ('"' :: s.toList.flatMap quoteChar ++ ['"'])

end GuardErasure.Text
