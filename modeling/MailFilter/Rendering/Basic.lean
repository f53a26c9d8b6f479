import MailFilter.Expression

/-!
# What a renderer can refuse

Writing an expression down fails in one way: the expression is nested more deeply than the limit
allows. The limit counts operators, the root being the first, so an expression is within a limit
exactly when its depth is. A second cause belongs to operands that are not built from scalars: a
JSON list or object is no literal value.
-/

namespace MailFilter

/-- Why an expression cannot be rendered or exported, or a JSON value is no scalar. -/
inductive RenderError where
  | depthExceeded (limit : Nat)
  | unexpectedNode (kind : String)
deriving DecidableEq, Repr

/-- The text shown for a rendering error. -/
def RenderError.message : RenderError → String
  | depthExceeded limit => "Expression nesting exceeds the maximum depth of " ++ toString limit
  | unexpectedNode kind =>
    "Unexpected node type: expected Expression, Operator, or Operand, got " ++ kind

/-- The result if the level is within the limit. -/
def withinDepth {α : Type} (limit level : Nat) (result : Except RenderError α) :
    Except RenderError α :=
  if limit < level then .error (.depthExceeded limit) else result

/-- The scalar of a JSON value; lists and objects have none. -/
def Scalar.ofJson : Json → Except RenderError Scalar
  | .null => .ok .null
  | .bool b => .ok (.bool b)
  | .number n => .ok (ofNumber n)
  | .string s => .ok (.string s)
  | .array _ => .error (.unexpectedNode "array")
  | .object _ => .error (.unexpectedNode "object")

end MailFilter
