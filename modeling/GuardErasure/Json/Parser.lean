import GuardErasure.Decimal.Reader
import GuardErasure.Json.Basic

namespace GuardErasure.Json

/-!
# Reading JSON text

`parse?` reads one document and nothing after it but blanks.  The grammar is the standard
one: no leading zeros, no bare point, no trailing comma, no control character inside a
string.
-/

/-- Is this one of the four blank characters of the grammar? -/
def isBlank (c : Char) : Bool := c = ' ' || c = '\n' || c = '\t' || c = '\r'

/-- What follows the blanks at the start of a text. -/
def skipBlank (cs : List Char) : List Char := cs.dropWhile isBlank

/-! ### Numbers -/

/-- Does a literal keep to the grammar of numbers? -/
def isNumber (l : Decimal.Literal) : Bool :=
  (match l.whole with
    | [] => false
    | '0' :: rest => rest.isEmpty
    | _ => true) &&
  !(l.fraction.any List.isEmpty) && !(l.exponent.any (·.2.isEmpty))

/-- The number that a literal stands for.  Digits alone are an integer if it fits in 64 bits,
    with or without a sign; a negative zero is a float. -/
def ofLiteral (negative : Bool) (l : Decimal.Literal) : Json :=
  let n := Decimal.digitsValue l.whole
  if l.isWhole ∧ ¬negative ∧ n < UInt64.size then int n
  else if l.isWhole ∧ negative ∧ 0 < n ∧ Int64.minValue.toInt ≤ -n then int (-n)
  else real (l.toFloat negative)

/-- Read a number from the front of a text. -/
def scanNumber? (cs : List Char) : Option (Json × List Char) :=
  let (negative, cs) := match cs with
    | '-' :: cs => (true, cs)
    | cs => (false, cs)
  let (l, rest) := Decimal.scanLiteral cs
  if isNumber l then some (ofLiteral negative l, rest) else none

/-! ### Strings -/

/-- The value of a hexadecimal digit. -/
def hexDigit? (c : Char) : Option Nat :=
  if '0' ≤ c ∧ c ≤ '9' then some (c.toNat - '0'.toNat)
  else if 'a' ≤ c ∧ c ≤ 'f' then some (c.toNat - 'a'.toNat + 10)
  else if 'A' ≤ c ∧ c ≤ 'F' then some (c.toNat - 'A'.toNat + 10)
  else none

/-- The value of four hexadecimal digits. -/
def hex4? (a b c d : Char) : Option Nat := do
  return (((← hexDigit? a) * 16 + (← hexDigit? b)) * 16 + (← hexDigit? c)) * 16 + (← hexDigit? d)

/-- The character that a one-letter escape stands for. -/
def escape? : Char → Option Char
  | '"' => some '"'
  | '\\' => some '\\'
  | '/' => some '/'
  | 'b' => some '\x08'
  | 'f' => some '\x0c'
  | 'n' => some '\n'
  | 'r' => some '\r'
  | 't' => some '\t'
  | _ => none

/-- Read a string up to its closing quotation mark, as numbers: the code points of its plain
    characters and the 16-bit units of its numeric escapes. -/
def scanString? : List Char → Option (List Nat × List Char)
  | [] => none
  | '"' :: rest => some ([], rest)
  | '\\' :: 'u' :: a :: b :: c :: d :: rest => do
    let n ← hex4? a b c d
    let (ns, rest) ← scanString? rest
    return (n :: ns, rest)
  | '\\' :: c :: rest => do
    let e ← escape? c
    let (ns, rest) ← scanString? rest
    return (e.toNat :: ns, rest)
  | c :: rest => do
    if c.toNat < 0x20 then none
    else
      let (ns, rest) ← scanString? rest
      return (c.toNat :: ns, rest)

/-- Put the halves of surrogate pairs together; a half by itself is no character. -/
def joinUnits? : List Nat → Option (List Char)
  | [] => some []
  | high :: low :: rest =>
    if 0xD800 ≤ high ∧ high < 0xDC00 then
      if 0xDC00 ≤ low ∧ low < 0xE000 then
        (joinUnits? rest).map
          (Char.ofNat (0x10000 + (high - 0xD800) * 0x400 + (low - 0xDC00)) :: ·)
      else none
    else if 0xDC00 ≤ high ∧ high < 0xE000 then none
    else (joinUnits? (low :: rest)).map (Char.ofNat high :: ·)
  | [n] => if 0xD800 ≤ n ∧ n < 0xE000 then none else some [Char.ofNat n]

/-! ### Documents -/

/-- Read a word from the front of a text. -/
def scanWord? (word : String) (v : Json) (cs : List Char) : Option (Json × List Char) :=
  if word.toList.isPrefixOf cs then some (v, cs.drop word.length) else none

mutual

/-- Read a document from the front of a text.  Each step uses up some fuel; twice the length of
    the text is enough. -/
def scan? : Nat → List Char → Option (Json × List Char)
  | 0, _ => none
  | fuel + 1, cs =>
    match skipBlank cs with
    | '\x7b' :: cs => (scanMembers? fuel true cs).map fun (ms, rest) => (object ms, rest)
    | '[' :: cs => (scanItems? fuel true cs).map fun (vs, rest) => (array vs, rest)
    | '"' :: cs =>
      (scanString? cs).map fun (ns, rest) => (string ((joinUnits? ns).map String.ofList), rest)
    | 'n' :: cs => scanWord? "null" null ('n' :: cs)
    | 't' :: cs => scanWord? "true" (bool true) ('t' :: cs)
    | 'f' :: cs => scanWord? "false" (bool false) ('f' :: cs)
    | cs => scanNumber? cs

/-- Read the rest of an array; only one without items may end at once. -/
def scanItems? : Nat → Bool → List Char → Option (List Json × List Char)
  | 0, _, _ => none
  | fuel + 1, first, cs =>
    match skipBlank cs with
    | ']' :: rest => if first then some ([], rest) else none
    | cs => do
      let (v, rest) ← scan? fuel cs
      match skipBlank rest with
      | ',' :: rest =>
        let (vs, rest) ← scanItems? fuel false rest
        return (v :: vs, rest)
      | ']' :: rest => return ([v], rest)
      | _ => none

/-- Read the rest of an object; only one without members may end at once. -/
def scanMembers? : Nat → Bool → List Char →
    Option (List (Option String × Json) × List Char)
  | 0, _, _ => none
  | fuel + 1, first, cs =>
    match skipBlank cs with
    | '\x7d' :: rest => if first then some ([], rest) else none
    | '"' :: cs => do
      let (ns, rest) ← scanString? cs
      let name := (joinUnits? ns).map String.ofList
      match skipBlank rest with
      | ':' :: rest =>
        let (v, rest) ← scan? fuel rest
        match skipBlank rest with
        | ',' :: rest =>
          let (ms, rest) ← scanMembers? fuel false rest
          return ((name, v) :: ms, rest)
        | '\x7d' :: rest => return ([(name, v)], rest)
        | _ => none
      | _ => none
    | _ => none

end

/-- The document that a text holds. -/
def parse? (s : String) : Option Json := do
  let cs := s.toList
  let (v, rest) ← scan? (2 * cs.length + 2) cs
  if (skipBlank rest).isEmpty then return v else none

end GuardErasure.Json
