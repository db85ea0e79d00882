import GuardErasure.Decimal.Layout
import GuardErasure.Text.Quoted

namespace GuardErasure

/-!
# Runtime values

The values that constants carry and that evaluation produces:

* `Value` — null, scalars, records of named fields, and lists;
* `Fields` — the fields of a record, whose type says that their names increase strictly;
* `Value.ofFields` — a record from any list of named values: each is put in its place among
  the fields, and of two fields of one name the later one stays;
* `Value.same` — the equality of values, instance of `==`: floats are compared as numbers,
  so that NaN differs from itself and the two zeros agree, and an integer is never equal
  to a float;
* `Value.text` — the way a value is written in messages.
-/

mutual

/-- A runtime value. -/
inductive Value where
  | null
  | bool (b : Bool)
  | int64 (i : Int64)
  | float64 (f : Float)
  | string (s : String)
  | record (fields : Fields none)
  | list (items : List Value)

/-- Named values in strictly increasing order of their names, all of which come after the
    bound, if there is one. -/
inductive Fields : Option String → Type where
  | nil {bound : Option String} : Fields bound
  | cons {bound : Option String} (name : String) (after : ∀ other ∈ bound, other < name)
      (value : Value) (rest : Fields (some name)) : Fields bound

end

/-- What sort of value a value is, as far as messages tell. -/
inductive ValueKind where
  | null | bool | int64 | float64 | string | record | list
deriving DecidableEq

/-- The name of a sort of values. -/
def ValueKind.name : ValueKind → String
  | null => "Null"
  | bool => "Bool"
  | int64 => "Int64"
  | float64 => "Float64"
  | string => "String"
  | record => "Record"
  | list => "List"

namespace Value

/-- The sort of a value. -/
def kind : Value → ValueKind
  | null => .null
  | bool _ => .bool
  | int64 _ => .int64
  | float64 _ => .float64
  | string _ => .string
  | record _ => .record
  | list _ => .list

/-- Is this the null value? -/
def isNull : Value → Bool
  | null => true
  | _ => false

/-! ### Views of a value -/

/-- The truth value, if this is one. -/
def toBool? : Value → Option Bool
  | bool b => some b
  | _ => none

/-- The integer, if this is one. -/
def toInt64? : Value → Option Int64
  | int64 i => some i
  | _ => none

/-- The number as a float, if this is a number of either sort. -/
def toFloat? : Value → Option Float
  | int64 i => some (Float.ofInt i.toInt)
  | float64 f => some f
  | _ => none

/-- The text, if this is one. -/
def toText? : Value → Option String
  | string s => some s
  | _ => none

/-- The elements, if this is a list. -/
def toList? : Value → Option (List Value)
  | list items => some items
  | _ => none

end Value

/-! ### Records -/

namespace Fields

/-- The fields, one after the other. -/
def toList {bound : Option String} : Fields bound → List (String × Value)
  | nil => []
  | cons name _ value rest => (name, value) :: rest.toList

/-- The field of a given name. -/
def find? {bound : Option String} (fields : Fields bound) (name : String) : Option Value :=
  fields.toList.lookup name

/-- Put a field in its place; a field of the same name gives way. -/
def insert {bound : Option String} :
    Fields bound → (name : String) → (∀ other ∈ bound, other < name) → Value → Fields bound
  | nil, name, after, v => cons name after v nil
  | cons other hother w rest, name, after, v =>
    if hlt : name < other then
      cons name after v (cons other (fun _ h => Option.mem_some.mp h ▸ hlt) w rest)
    else if heq : name = other then cons other hother v rest
    else
      have hgt : other < name := Std.lt_of_le_of_ne hlt (Ne.symm heq)
      cons other hother w (rest.insert name (fun _ h => Option.mem_some.mp h ▸ hgt) v)

/-- Put a named value among the fields of a record. -/
def put (fields : Fields none) (f : String × Value) : Fields none := fields.insert f.1 nofun f.2

end Fields

namespace Value

/-- The field of a record that has a given name. -/
def field? : Value → String → Option Value
  | record fields, name => fields.find? name
  | _, _ => none

/-- The record of some named values, the later of two equal names winning. -/
def ofFields (fields : List (String × Value)) : Value :=
  record (fields.foldl Fields.put .nil)

/-! ### Equality -/

mutual

/-- Are two values equal?  Floats are compared as numbers. -/
def same : Value → Value → Bool
  | null, null => true
  | bool a, bool b => a == b
  | int64 a, int64 b => a == b
  | float64 a, float64 b => a == b
  | string a, string b => a == b
  | record fs, record gs => sameFields fs gs
  | list as, list bs => sameItems as bs
  | _, _ => false

/-- Are the fields of two records equal, name by name and value by value? -/
def sameFields {b c : Option String} : Fields b → Fields c → Bool
  | .nil, .nil => true
  | .cons m _ a fs, .cons n _ b gs => m == n && same a b && sameFields fs gs
  | _, _ => false

/-- Are two lists of values equal, element by element? -/
def sameItems : List Value → List Value → Bool
  | [], [] => true
  | a :: as, b :: bs => same a b && sameItems as bs
  | _, _ => false

end

instance : BEq Value := ⟨same⟩

/-! ### Text -/

mutual

/-- The way a value is written: text between quotation marks, a record between braces and a
    list between brackets. -/
def text : Value → String
  | null => "null"
  | bool b => toString b
  | int64 i => toString i.toInt
  | float64 f => Decimal.floatText f
  | string s => Text.quoted s
  | record fields => "\x7b" ++ ", ".intercalate (fieldTexts fields) ++ "\x7d"
  | list items => "[" ++ ", ".intercalate (itemTexts items) ++ "]"

/-- The fields of a record, each as a bare name and a value. -/
def fieldTexts {bound : Option String} : Fields bound → List String
  | .nil => []
  | .cons name _ v rest => (name ++ ": " ++ text v) :: fieldTexts rest

/-- The elements of a list. -/
def itemTexts : List Value → List String
  | [] => []
  | v :: rest => text v :: itemTexts rest

end

/-- A value as part of a longer text: text stands for itself, without quotation marks. -/
def bareText : Value → String
  | string s => s
  | v => v.text

instance : ToString Value := ⟨text⟩

end Value

end GuardErasure
