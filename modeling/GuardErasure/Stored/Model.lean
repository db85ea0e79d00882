import GuardErasure.Expr.Basic
import GuardErasure.Json.Basic

namespace GuardErasure

/-!
# Stored types, values and operators

The JSON form of the parts that expressions are made of.  An alternative without contents is
stored as its name, one with contents as an object whose only member is named for it.  Each
type has a writer `toJson` and a reader `ofJson?`, which takes the number of levels left.
-/

/-! ### Types -/

namespace Ty

/-- A type as a document. -/
def toJson : Ty → Json
  | bool => .str "Bool"
  | int64 => .str "Int64"
  | float64 => .str "Float64"
  | string => .str "String"
  | record name => .variant "Record" (.str name)
  | seq t => .variant "Sequence" t.toJson
  | option t => .variant "Nullable" t.toJson
  | object => .str "Object"

/-- The type that a document stands for. -/
def ofJson? : Nat → Json → Option Ty
  | 0, _ => none
  | levels + 1, j =>
    match j.alternative? levels with
    | some ("Bool", none) => some bool
    | some ("Int64", none) => some int64
    | some ("Float64", none) => some float64
    | some ("String", none) => some string
    | some ("Object", none) => some object
    | some ("Record", some c) => c.string?.map record
    | some ("Sequence", some c) => (ofJson? levels c).map seq
    | some ("Nullable", some c) => (ofJson? levels c).map option
    | _ => none

end Ty

/-! ### Values -/

namespace Value

mutual

/-- A value as a document; a float that is no number is stored as null. -/
def toJson : Value → Json
  | null => .str "Null"
  | bool b => .variant "Bool" (.bool b)
  | int64 i => .variant "Int64" (.int i.toInt)
  | float64 f => .variant "Float64" (if f.isFinite then .real f else .null)
  | string s => .variant "String" (.str s)
  | record fields => .variant "Record" (.object (fieldsToJson fields))
  | list items => .variant "List" (.array (itemsToJson items))

/-- The fields of a record as members. -/
def fieldsToJson {bound : Option String} : Fields bound → List (Option String × Json)
  | .nil => []
  | .cons name _ v rest => (some name, toJson v) :: fieldsToJson rest

/-- The elements of a list as items. -/
def itemsToJson : List Value → List Json
  | [] => []
  | v :: rest => toJson v :: itemsToJson rest

end

/-- The value that a document stands for. -/
def ofJson? : Nat → Json → Option Value
  | 0, _ => none
  | levels + 1, j =>
    match j.alternative? levels with
    | some ("Null", none) => some null
    | some ("Bool", some c) => c.bool?.map bool
    | some ("Int64", some c) => c.int64?.map int64
    | some ("Float64", some c) => c.float?.map float64
    | some ("String", some c) => c.string?.map string
    | some ("Record", some (.object members)) =>
      match levels with
      | deeper + 2 =>
        (members.mapM fun (m : Option String × Json) => do
          return (← m.1, ← ofJson? (deeper + 1) m.2)).map ofFields
      | _ => none
    | some ("List", some (.array items)) =>
      match levels with
      | deeper + 2 => (items.mapM (ofJson? (deeper + 1))).map list
      | _ => none
    | _ => none

end Value

/-! ### Operators and names -/

namespace UnOp

/-- The name under which an operator is stored. -/
def tag : UnOp → String
  | not => "Not"
  | negate => "Negate"
  | convert => "Convert"
  | quote => "Quote"

/-- The operator of a stored name. -/
def ofTag? : String → Option UnOp
  | "Not" => some not
  | "Negate" => some negate
  | "Convert" => some convert
  | "Quote" => some quote
  | _ => none

/-- An operator as a document. -/
def toJson (op : UnOp) : Json := .str op.tag

/-- The operator that a document stands for. -/
def ofJson? (levels : Nat) (j : Json) : Option UnOp :=
  match j.alternative? (levels - 1) with
  | some (name, none) => ofTag? name
  | _ => none

end UnOp

namespace BinOp

/-- The name under which an operator is stored. -/
def tag : BinOp → String
  | equal => "Equal"
  | notEqual => "NotEqual"
  | less => "Lt"
  | lessEq => "LtEq"
  | greater => "Gt"
  | greaterEq => "GtEq"
  | and => "And"
  | or => "Or"
  | add => "Add"
  | subtract => "Subtract"
  | multiply => "Multiply"
  | divide => "Divide"

/-- The operator of a stored name. -/
def ofTag? : String → Option BinOp
  | "Equal" => some equal
  | "NotEqual" => some notEqual
  | "Lt" => some less
  | "LtEq" => some lessEq
  | "Gt" => some greater
  | "GtEq" => some greaterEq
  | "And" => some and
  | "Or" => some or
  | "Add" => some add
  | "Subtract" => some subtract
  | "Multiply" => some multiply
  | "Divide" => some divide
  | _ => none

/-- An operator as a document. -/
def toJson (op : BinOp) : Json := .str op.tag

/-- The operator that a document stands for. -/
def ofJson? (levels : Nat) (j : Json) : Option BinOp :=
  match j.alternative? (levels - 1) with
  | some (name, none) => ofTag? name
  | _ => none

end BinOp

namespace MemberName

/-- A member name as a document. -/
def toJson : MemberName → Json
  | named name => .variant "Named" (.str name)
  | wrappedValue => .str "WrappedValue"
  | hasValue => .str "HasValue"

/-- The member name that a document stands for. -/
def ofJson? (levels : Nat) (j : Json) : Option MemberName :=
  match j.alternative? (levels - 1) with
  | some ("Named", some c) => c.string?.map named
  | some ("WrappedValue", none) => some wrappedValue
  | some ("HasValue", none) => some hasValue
  | _ => none

end MemberName

namespace Method

/-- A method as a document. -/
def toJson (m : Method) : Json :=
  .record [("name", .str m.name), ("is_static", .bool m.isStatic)]

/-- The method that a document stands for. -/
def ofJson? (levels : Nat) (j : Json) : Option Method :=
  if levels ≤ 1 then none
  else
    match j.fields? ["name", "is_static"] with
    | some [some name, some isStatic] => do return ⟨← name.string?, ← isStatic.bool?⟩
    | _ => none

end Method

end GuardErasure
