import GuardErasure.Stored.Model

namespace GuardErasure.Expr

/-!
# Stored expressions

The JSON form of expressions: an object named for the kind of the node, with the node's fields.
Calls with and without a receiver are stored alike, the latter with a null receiver.  Within a
larger document a node's fields are named; a document that is an expression may list them.
-/

mutual

/-- An expression as a document. -/
def toJson : Expr → Json
  | const v t => .variant "Constant" (.record [("value", v.toJson), ("ty", t.toJson)])
  | param name t => .variant "Parameter" (.record [("name", .str name), ("ty", t.toJson)])
  | member owner name t =>
    .variant "Member"
      (.record [("owner", owner.toJson), ("member", name.toJson), ("ty", t.toJson)])
  | callOn receiver m args t =>
    .variant "Call"
      (.record [("receiver", receiver.toJson), ("method", m.toJson),
        ("args", .array (argsToJson args)), ("ty", t.toJson)])
  | call m args t =>
    .variant "Call"
      (.record [("receiver", .null), ("method", m.toJson),
        ("args", .array (argsToJson args)), ("ty", t.toJson)])
  | unary op operand t =>
    .variant "Unary"
      (.record [("op", op.toJson), ("operand", operand.toJson), ("ty", t.toJson)])
  | binary op left right t =>
    .variant "Binary"
      (.record [("op", op.toJson), ("left", left.toJson), ("right", right.toJson),
        ("ty", t.toJson)])
  | cond test ifTrue ifFalse t =>
    .variant "Conditional"
      (.record [("test", test.toJson), ("if_true", ifTrue.toJson),
        ("if_false", ifFalse.toJson), ("ty", t.toJson)])
  | lambda params body =>
    .variant "Lambda"
      (.record [("params", .array (params.map .str)), ("body", body.toJson)])
  | root element => .variant "QueryRoot" (.record [("element", element.toJson)])
  | source name element =>
    .variant "Source" (.record [("name", .str name), ("element", element.toJson)])
  | foreign label t =>
    .variant "Opaque" (.record [("label", .str label), ("ty", t.toJson)])

/-- Several expressions as documents. -/
def argsToJson : List Expr → List Json
  | [] => []
  | e :: es => e.toJson :: argsToJson es

end

/-- The fields of each kind of node, in the order in which they are stored. -/
def fieldNames : String → List String
  | "Constant" => ["value", "ty"]
  | "Parameter" => ["name", "ty"]
  | "Member" => ["owner", "member", "ty"]
  | "Call" => ["receiver", "method", "args", "ty"]
  | "Unary" => ["op", "operand", "ty"]
  | "Binary" => ["op", "left", "right", "ty"]
  | "Conditional" => ["test", "if_true", "if_false", "ty"]
  | "Lambda" => ["params", "body"]
  | "QueryRoot" => ["element"]
  | "Source" => ["name", "element"]
  | "Opaque" => ["label", "ty"]
  | _ => []

/-- The node of a kind that has these fields.  Parts of the node are read with `read`, and what
    stands in a list, one level deeper, with `readItem`. -/
def ofFields? (levels : Nat) (read readItem : Json → Option Expr) (kind : String)
    (fields : List (Option Json)) : Option Expr :=
  match kind, fields with
  | "Constant", [some v, some t] =>
    return const (← Value.ofJson? levels v) (← Ty.ofJson? levels t)
  | "Parameter", [some n, some t] => return param (← n.string?) (← Ty.ofJson? levels t)
  | "Member", [some o, some n, some t] =>
    return member (← read o) (← MemberName.ofJson? levels n) (← Ty.ofJson? levels t)
  | "Call", [r, some m, some as, some t] => do
    let m ← Method.ofJson? levels m
    let t ← Ty.ofJson? levels t
    if levels ≤ 1 then none
    else
      let as ← (← as.array?).mapM readItem
      match r with
      | none | some .null => return call m as t
      | some r => return callOn (← read r) m as t
  | "Unary", [some o, some e, some t] =>
    return unary (← UnOp.ofJson? levels o) (← read e) (← Ty.ofJson? levels t)
  | "Binary", [some o, some l, some r, some t] =>
    return binary (← BinOp.ofJson? levels o) (← read l) (← read r) (← Ty.ofJson? levels t)
  | "Conditional", [some c, some a, some b, some t] =>
    return cond (← read c) (← read a) (← read b) (← Ty.ofJson? levels t)
  | "Lambda", [some ps, some b] =>
    if levels ≤ 1 then none
    else return lambda (← (← ps.array?).mapM (·.string?)) (← read b)
  | "QueryRoot", [some t] => return root (← Ty.ofJson? levels t)
  | "Source", [some n, some t] => return source (← n.string?) (← Ty.ofJson? levels t)
  | "Opaque", [some l, some t] => return foreign (← l.string?) (← Ty.ofJson? levels t)
  | _, _ => none

/-- The expression that a document stands for.  Every field has to be given, except that a
    call without a receiver may leave it out.  Where `listed` is set, a node may also list all
    its fields without their names. -/
def ofJson? (listed : Bool) : Nat → Json → Option Expr
  | levels + 2, j => do
    let (kind, contents) ← j.alternative? (levels + 1)
    let contents ← contents
    let fields ←
      if listed then contents.fields? (fieldNames kind)
      else contents.namedFields? (fieldNames kind)
    let readItem : Json → Option Expr :=
      match levels with
      | deeper + 1 => ofJson? listed deeper
      | 0 => fun _ => none
    ofFields? levels (ofJson? listed levels) readItem kind fields
  | _, _ => none

end GuardErasure.Expr
