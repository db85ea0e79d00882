import Mathlib.Tactic.IntervalCases
import GuardErasure.Json.Parser
import GuardErasure.Json.Printer

namespace GuardErasure.Json

/-!
# Strings in JSON text

A string is read in two steps, as the numbers that it holds and then as characters:

* `charUnits` — the numbers that a written character is read as: its code point, or the two halves
  of a surrogate pair where the style escapes it as one;
* `scanString?_charText`, `joinUnits?_charUnits` — each step, for one character in front of others;
* `scanString?_stringText`, `joinUnits?_units` — and for a whole string.
-/

/-- The numbers that a written character is read as. -/
def charUnits (asciiOnly : Bool) (c : Char) : List Nat :=
  if asciiOnly ∧ 0x10000 ≤ c.toNat then
    [0xD800 + (c.toNat - 0x10000) / 0x400, 0xDC00 + (c.toNat - 0x10000) % 0x400]
  else [c.toNat]

/-- Only a character beyond 16 bits is ever written as two units. -/
theorem charUnits_of_lt (asciiOnly : Bool) {c : Char} (h : c.toNat < 0x10000) :
    charUnits asciiOnly c = [c.toNat] := if_neg (by omega)

/-- Put numbers in front of those that were read. -/
def inFront (ns : List Nat) (read : List Nat × List Char) : List Nat × List Char :=
  (ns ++ read.1, read.2)

/-! ### Numeric escapes -/

theorem hexDigit?_digitChar {d : Nat} (h : d < 16) : hexDigit? d.digitChar = some d := by
  interval_cases d <;> rfl

/-- A 16-bit unit in four hexadecimal digits, with zeros in front of a small one. -/
theorem hexDigits_eq {n : Nat} (h : n < 0x10000) :
    List.replicate (4 - (Nat.toDigits 16 n).length) '0' ++ Nat.toDigits 16 n
      = [(n / 4096).digitChar, (n / 256 % 16).digitChar, (n / 16 % 16).digitChar,
          (n % 16).digitChar] := by
  have hbase : 1 < 16 := by decide
  -- by the number of digits
  by_cases h1 : n < 16
  · have h3 : n / 4096 = 0 := by omega
    have h2 : n / 256 % 16 = 0 := by omega
    have h0 : n / 16 % 16 = 0 := by omega
    rw [Nat.toDigits_of_lt_base h1, h3, h2, h0, Nat.mod_eq_of_lt h1]
    rfl
  · by_cases h2 : n < 256
    · have h3 : n / 4096 = 0 := by omega
      have h0 : n / 256 % 16 = 0 := by omega
      rw [Nat.toDigits_of_base_le hbase (by omega), Nat.toDigits_of_lt_base (n := n / 16) (by omega),
        h3, h0, Nat.mod_eq_of_lt (a := n / 16) (by omega)]
      rfl
    · by_cases h3 : n < 4096
      · have h0 : n / 4096 = 0 := by omega
        have h4 : n / 16 / 16 = n / 256 % 16 := by omega
        rw [Nat.toDigits_of_base_le hbase (by omega),
          Nat.toDigits_of_base_le hbase (n := n / 16) (by omega), h4,
          Nat.toDigits_of_lt_base (n := n / 256 % 16) (by omega), h0]
        rfl
      · have h4 : n / 16 / 16 % 16 = n / 256 % 16 := by omega
        have h5 : n / 16 / 16 / 16 = n / 4096 := by omega
        rw [Nat.toDigits_of_base_le hbase (by omega),
          Nat.toDigits_of_base_le hbase (n := n / 16) (by omega),
          Nat.toDigits_of_base_le hbase (n := n / 16 / 16) (by omega), h4, h5,
          Nat.toDigits_of_lt_base (n := n / 4096) (by omega)]
        rfl

theorem toList_unitEscape {n : Nat} (h : n < 0x10000) :
    (unitEscape n).toList
      = ['\\', 'u', (n / 4096).digitChar, (n / 256 % 16).digitChar, (n / 16 % 16).digitChar,
          (n % 16).digitChar] := by
  rw [unitEscape, String.toList_append, hexDigits_eq h]
  exact congrArg (['\\', 'u'] ++ ·) String.toList_ofList

/-- Four hexadecimal digits are read as the unit that they were written for. -/
theorem hex4?_unit {n : Nat} (h : n < 0x10000) :
    hex4? (n / 4096).digitChar (n / 256 % 16).digitChar (n / 16 % 16).digitChar (n % 16).digitChar
      = some n := by
  have hvalue : ((n / 4096 * 16 + n / 256 % 16) * 16 + n / 16 % 16) * 16 + n % 16 = n := by omega
  rw [hex4?, hexDigit?_digitChar (by omega), hexDigit?_digitChar (by omega),
    hexDigit?_digitChar (by omega), hexDigit?_digitChar (by omega)]
  exact congrArg some hvalue

/-! ### Reading one character -/

theorem scanString?_unitEscape {n : Nat} (h : n < 0x10000) (rest : List Char) :
    scanString? ((unitEscape n).toList ++ rest) = (scanString? rest).map (inFront [n]) := by
  rw [toList_unitEscape h]
  simp only [List.cons_append, List.nil_append]
  rw [scanString?, hex4?_unit h]
  cases scanString? rest <;> rfl

/-- A one-letter escape stands for one character. -/
theorem scanString?_escape (asciiOnly : Bool) (letter c : Char) (hletter : letter ≠ 'u')
    (hescape : escape? letter = some c) (hc : c.toNat < 0x10000) (rest : List Char) :
    scanString? ('\\' :: letter :: rest)
      = (scanString? rest).map (inFront (charUnits asciiOnly c)) := by
  rw [charUnits_of_lt asciiOnly hc, scanString?, hescape]
  · cases scanString? rest <;> rfl
  · exact fun _ _ _ _ _ hu => absurd hu hletter

/-- A plain character stands for itself. -/
theorem scanString?_plain {c : Char} (hquote : c ≠ '"') (hescape : c ≠ '\\') (hc : 0x20 ≤ c.toNat)
    (rest : List Char) :
    scanString? (c :: rest) = (scanString? rest).map (inFront [c.toNat]) := by
  rw [scanString?, if_neg (by omega)]
  · cases scanString? rest <;> rfl
  · exact hquote
  · exact fun _ _ _ _ _ h => absurd h hescape
  · exact fun _ _ h => absurd h hescape

/-- **A written character** is read as its numbers, whatever follows. -/
theorem scanString?_charText (asciiOnly : Bool) (c : Char) (rest : List Char) :
    scanString? ((charText asciiOnly c).toList ++ rest)
      = (scanString? rest).map (inFront (charUnits asciiOnly c)) := by
  -- the seven characters with an escape of one letter, units, pairs of units, plain characters
  fun_cases charText asciiOnly c with
  | case1 => exact scanString?_escape asciiOnly '"' '"' (by decide) rfl (by decide) rest
  | case2 => exact scanString?_escape asciiOnly '\\' '\\' (by decide) rfl (by decide) rest
  | case3 => exact scanString?_escape asciiOnly 'n' '\n' (by decide) rfl (by decide) rest
  | case4 => exact scanString?_escape asciiOnly 'r' '\r' (by decide) rfl (by decide) rest
  | case5 => exact scanString?_escape asciiOnly 't' '\t' (by decide) rfl (by decide) rest
  | case6 => exact scanString?_escape asciiOnly 'b' '\x08' (by decide) rfl (by decide) rest
  | case7 => exact scanString?_escape asciiOnly 'f' '\x0c' (by decide) rfl (by decide) rest
  | case8 _ _ _ _ _ _ _ _ hunit =>
    have hc : c.toNat < 0x10000 := by omega
    rw [charUnits_of_lt asciiOnly hc]
    exact scanString?_unitEscape hc rest
  | case9 _ _ _ _ _ _ _ _ _ hpair n =>
    have hvalid : c.toNat < 0x110000 := by
      have hc := c.valid
      simp only [UInt32.isValidChar, Nat.isValidChar] at hc
      show c.val.toNat < _
      omega
    rw [charUnits, if_pos hpair, String.toList_append, List.append_assoc,
      scanString?_unitEscape (by omega), scanString?_unitEscape (by omega)]
    cases scanString? rest <;> rfl
  | case10 _ hquote hslash _ _ _ _ _ hunit hpair =>
    have htext : c.toString.toList = [c] := by simp [Char.toString]
    rw [charUnits, if_neg hpair, htext]
    exact scanString?_plain hquote hslash (by omega) rest

/-! ### Reading a whole string -/

theorem toList_stringText (asciiOnly : Bool) (s : String) :
    (stringText asciiOnly s).toList
      = '"' :: (s.toList.flatMap fun c => (charText asciiOnly c).toList) ++ ['"'] := by
  have hfold : ∀ (cs : List Char) (acc : String),
      (cs.foldl (fun acc c => acc ++ charText asciiOnly c) acc).toList
        = acc.toList ++ cs.flatMap fun c => (charText asciiOnly c).toList := by
    intro cs
    induction cs with
    | nil => exact fun acc => (List.append_nil _).symm
    | cons c cs ih =>
      intro acc
      rw [List.foldl_cons, ih, String.toList_append, List.flatMap_cons, List.append_assoc]
  rw [stringText, String.toList_append, String.foldl_eq_foldl_toList, hfold]
  rfl

/-- **Between its quotation marks** a string is read as the numbers of its characters. -/
theorem scanString?_chars (asciiOnly : Bool) (cs rest : List Char) :
    scanString? ((cs.flatMap fun c => (charText asciiOnly c).toList) ++ '"' :: rest)
      = some (cs.flatMap (charUnits asciiOnly), rest) := by
  induction cs with
  | nil =>
    show scanString? ('"' :: rest) = _
    rw [scanString?]
    rfl
  | cons c cs ih =>
    rw [List.flatMap_cons, List.append_assoc, scanString?_charText, ih]
    rfl

/-- The numbers of one character are put together to that character. -/
theorem joinUnits?_charUnits (asciiOnly : Bool) (c : Char) (ns : List Nat) :
    joinUnits? (charUnits asciiOnly c ++ ns) = (joinUnits? ns).map (c :: ·) := by
  have hvalid : c.toNat < 0xD800 ∨ (0xDFFF < c.toNat ∧ c.toNat < 0x110000) := c.valid
  rw [charUnits]
  split
  · rename_i hpair
    have hchar : 0x10000 + (0xD800 + (c.toNat - 0x10000) / 0x400 - 0xD800) * 0x400
        + (0xDC00 + (c.toNat - 0x10000) % 0x400 - 0xDC00) = c.toNat := by omega
    show joinUnits? (_ :: _ :: ns) = _
    rw [joinUnits?, if_pos (by omega), if_pos (by omega), hchar, Char.ofNat_toNat]
  · show joinUnits? (c.toNat :: ns) = _
    cases ns with
    | nil =>
      have hlast : joinUnits? [c.toNat] = some [Char.ofNat c.toNat] := if_neg (by omega)
      rw [hlast, Char.ofNat_toNat]
      rfl
    | cons n ns => rw [joinUnits?, if_neg (by omega), if_neg (by omega), Char.ofNat_toNat]

theorem joinUnits?_units (asciiOnly : Bool) (cs : List Char) :
    joinUnits? (cs.flatMap (charUnits asciiOnly)) = some cs := by
  induction cs with
  | nil => rfl
  | cons c cs ih =>
    rw [List.flatMap_cons, joinUnits?_charUnits, ih]
    rfl

/-- **A written string** is read back, whatever follows its closing quotation mark. -/
theorem scanString?_stringText (asciiOnly : Bool) (s : String) (rest : List Char) :
    ∃ cs ns, (stringText asciiOnly s).toList = '"' :: cs
      ∧ scanString? (cs ++ rest) = some (ns, rest)
      ∧ (joinUnits? ns).map String.ofList = some s := by
  refine ⟨(s.toList.flatMap fun c => (charText asciiOnly c).toList) ++ ['"'],
    s.toList.flatMap (charUnits asciiOnly), toList_stringText asciiOnly s, ?_, ?_⟩
  · rw [List.append_assoc]
    exact scanString?_chars asciiOnly s.toList rest
  · rw [joinUnits?_units, Option.map_some, String.ofList_toList]

end GuardErasure.Json
