namespace GuardErasure

/-!
# JSON documents

* `Json` — a document as it was read: members keep their order and may repeat a name, and an
  integer is told apart from a number with a point or an exponent;
* `Json.str` — a string document;
* `Json.alternative?`, `Json.namedFields?`, `Json.fields?`, `Json.fieldsOrFewer?` — the shapes
  in which alternatives and structures are stored;
* `Json.levelLimit` — how deeply a document may be nested.
-/

/-- A JSON document.  A string is absent where its escapes do not pair up to characters. -/
inductive Json where
  | null
  | bool (b : Bool)
  /-- A number written as digits alone, within 64 bits. -/
  | int (i : Int)
  /-- Any other number; infinite if it is too large for a float. -/
  | real (f : Float)
  | string (s : Option String)
  | array (items : List Json)
  | object (members : List (Option String × Json))

namespace Json

/-- A string document. -/
def str (s : String) : Json := string (some s)

/-- An object of the given members. -/
def record (members : List (String × Json)) : Json :=
  object (members.map fun (name, v) => (some name, v))

/-- An alternative with contents: an object whose one member is named for it. -/
def variant (name : String) (contents : Json) : Json := object [(some name, contents)]

/-! ### Reading alternatives and structures

A reader is given the number of levels that are left to it.  An array or object takes one, and
may only be opened if another one remains for what is in it. -/

/-- How many levels a reader starts with. -/
def levelLimit : Nat := 128

/-- The name and the contents of a stored alternative, given the levels that would be left
    inside an object.  One without contents may stand as a bare string; null is no contents. -/
def alternative? (inside : Nat) : Json → Option (String × Option Json)
  | string (some name) => some (name, none)
  | object [(some name, null)] => if inside = 0 then none else some (name, none)
  | object [(some name, contents)] => if inside = 0 then none else some (name, some contents)
  | _ => none

/-- The members of one name in an object; `none` if there are several. -/
def member? (members : List (Option String × Json)) (name : String) :
    Option (Option Json) :=
  match members.filter (·.1 == some name) with
  | [] => some none
  | [(_, v)] => some (some v)
  | _ => none

/-- The contents of the named fields of a structure that is stored as an object: every name
    has to be a proper string, no field may be given twice, and other names are skipped. -/
def objectFields? (names : List String) (members : List (Option String × Json)) :
    Option (List (Option Json)) :=
  if members.any (·.1.isNone) then none else names.mapM (member? members)

/-- The fields of a structure that is always stored as an object. -/
def namedFields? (names : List String) : Json → Option (List (Option Json))
  | object members => objectFields? names members
  | _ => none

/-- The fields of a structure, which may also be stored as an array of all of them. -/
def fields? (names : List String) : Json → Option (List (Option Json))
  | array items => if items.length = names.length then some (items.map some) else none
  | object members => objectFields? names members
  | _ => none

/-- The fields of a structure in which each field may be left out; an array may stop early. -/
def fieldsOrFewer? (names : List String) : Json → Option (List (Option Json))
  | array items =>
    if items.length ≤ names.length then
      some (items.map some ++ List.replicate (names.length - items.length) none)
    else none
  | object members => objectFields? names members
  | _ => none

/-! ### Reading scalars -/

/-- A truth value. -/
def bool? : Json → Option Bool
  | bool b => some b
  | _ => none

/-- A string. -/
def string? : Json → Option String
  | string s => s
  | _ => none

/-- The items of an array. -/
def array? : Json → Option (List Json)
  | array items => some items
  | _ => none

/-- An integer in the signed 64-bit range. -/
def int64? : Json → Option Int64
  | int i =>
    if Int64.minValue.toInt ≤ i ∧ i ≤ Int64.maxValue.toInt then some (Int64.ofInt i) else none
  | _ => none

/-- An integer in the unsigned 64-bit range. -/
def uint64? : Json → Option UInt64
  | int i => if 0 ≤ i ∧ i < UInt64.size then some (UInt64.ofNat i.toNat) else none
  | _ => none

/-- A number, if it is not too large for a float. -/
def float? : Json → Option Float
  | int i => some (Float.ofInt i)
  | real f => if f.isFinite then some f else none
  | _ => none

end Json

end GuardErasure
