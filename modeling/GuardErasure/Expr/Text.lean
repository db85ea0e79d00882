import GuardErasure.Expr.Basic

namespace GuardErasure.Expr

/-!
# Expressions in messages

`text` writes an expression on one line.  Operations are wrapped in parentheses of their
own, so no precedence is needed; a quotation is not shown.
-/

/-- The parameters of a lambda: a single one stands alone. -/
def paramsText : List String → String
  | [p] => p
  | ps => "(" ++ ", ".intercalate ps ++ ")"

mutual

/-- An expression on one line. -/
def text : Expr → String
  | const v _ => v.text
  | param name _ => name
  | member owner name _ => owner.text ++ "." ++ name.text
  | callOn receiver m args _ =>
    receiver.text ++ "." ++ m.name ++ "(" ++ ", ".intercalate (texts args) ++ ")"
  | call m args _ => m.name ++ "(" ++ ", ".intercalate (texts args) ++ ")"
  | unary .not operand _ => "!" ++ operand.text
  | unary .negate operand _ => "-" ++ operand.text
  | unary .convert operand t => "(" ++ t.text ++ ")" ++ operand.text
  | unary .quote operand _ => operand.text
  | binary op left right _ => "(" ++ left.text ++ " " ++ op.symbol ++ " " ++ right.text ++ ")"
  | cond test ifTrue ifFalse _ =>
    "(" ++ test.text ++ " ? " ++ ifTrue.text ++ " : " ++ ifFalse.text ++ ")"
  | lambda params body => paramsText params ++ " => " ++ body.text
  | root _ => "<query>"
  | source name _ => name
  | foreign label _ => "<" ++ label ++ ">"

/-- Several expressions, one text each. -/
def texts : List Expr → List String
  | [] => []
  | e :: es => e.text :: texts es

end

instance : ToString Expr := ⟨text⟩

end GuardErasure.Expr
