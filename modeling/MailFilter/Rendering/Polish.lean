import MailFilter.Rendering.Basic

/-!
# Polish notation

The operator comes first, then the operands, each behind a single space, and nested expressions
are written the same way without any brackets. Apart from the limit on depth this is the plain
text of the expression.

`level` is the depth at which an expression stands: one for the root, one more for each operator
around it. An operand that stands alone has no operator around it, so it is rendered at level
zero.
-/

namespace MailFilter

mutual

/-- The Polish text of an expression that stands at the given level. -/
def Expression.polishAt (limit level : Nat) : Expression → Except RenderError String
  | .node op first rest =>
    withinDepth limit level do
      let head ← first.polishAt limit level
      let tail ← Operand.polishListAt limit level rest
      pure (op.symbol ++ " " ++ head ++ tail)

/-- The Polish text of an operand of an expression at the given level. -/
def Operand.polishAt (limit level : Nat) : Operand → Except RenderError String
  | .value scalar => .ok scalar.text
  | .field name => .ok name
  | .identifier name => .ok name
  | .nested e => e.polishAt limit (level + 1)

/-- The Polish texts of operands, each behind a space. -/
def Operand.polishListAt (limit level : Nat) : List Operand → Except RenderError String
  | [] => .ok ""
  | o :: os => do
    let head ← o.polishAt limit level
    let tail ← Operand.polishListAt limit level os
    pure (" " ++ head ++ tail)

end

/-- The Polish text of an expression within a limit on its depth. -/
def Expression.polish (limit : Nat) (e : Expression) : Except RenderError String :=
  e.polishAt limit 1

/-- The Polish text of an operand that stands alone. -/
def Operand.polish (limit : Nat) (o : Operand) : Except RenderError String :=
  o.polishAt limit 0

end MailFilter
