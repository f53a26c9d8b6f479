import MailFilter.Operator
import MailFilter.Scalar

/-!
# Filter expressions

An expression applies an operator to operands, of which there is **at least one**: the first
operand is a part of its own, so an expression without operands cannot be formed. An operand is
a literal value, the name of a field, some other identifier, or a nested expression.

Three views of an expression recur in the rest of the library. Its *text* is the operator's
symbol followed by the texts of the operands, in order and without any brackets. Its *depth* is
the number of operators on its longest branch, the root being at depth one. Two expressions are
the *same* when they agree in shape, operators, names and values.
-/

namespace MailFilter

mutual

/-- An operator applied to one or more operands. -/
inductive Expression where
  | node (operator : Operator) (first : Operand) (rest : List Operand)

/-- An argument of an expression. -/
inductive Operand where
  | value (scalar : Scalar)
  | field (name : String)
  | identifier (name : String)
  | nested (expression : Expression)

end

instance : Inhabited Operand := ⟨.value .null⟩
instance : Inhabited Expression := ⟨.node .eq default []⟩

/-- An attempt to apply an operator to no operands. -/
structure NoOperands where
  operator : Operator
deriving DecidableEq, Repr

/-- The text shown for an operator without operands. -/
def NoOperands.message (e : NoOperands) : String :=
  "Operator '" ++ e.operator.symbol ++ "' requires at least one operand"

namespace Operand

/-- The name, if the operand is the name of a field. -/
def asField? : Operand → Option String
  | field name => some name
  | _ => none

/-- The literal value, if the operand is one. -/
def asValue? : Operand → Option Scalar
  | value scalar => some scalar
  | _ => none

/-- The nested expression, if the operand is one. -/
def asNested? : Operand → Option Expression
  | nested e => some e
  | _ => none

theorem asField?_eq_some_iff {o : Operand} {name : String} :
    o.asField? = some name ↔ o = field name := by
  cases o <;> simp [asField?]

end Operand

namespace Expression

/-- The operator at the root. -/
def operator : Expression → Operator
  | node op _ _ => op

/-- The first operand. -/
def first : Expression → Operand
  | node _ o _ => o

/-- The operands after the first. -/
def rest : Expression → List Operand
  | node _ _ os => os

/-- All operands in order. -/
def operands (e : Expression) : List Operand :=
  e.first :: e.rest

/-- The family of the operator at the root. -/
def family (e : Expression) : Family :=
  e.operator.family

/-- Applies an operator to a list of operands, which must not be empty. -/
def ofList (op : Operator) : List Operand → Except NoOperands Expression
  | [] => .error ⟨op⟩
  | o :: os => .ok (node op o os)

/-! ## Expressions of a fixed number of operands -/

/-- Both are equal. -/
def eq (a b : Operand) : Expression := node .eq a [b]

/-- They are not equal. -/
def ne (a b : Operand) : Expression := node .ne a [b]

/-- The first is greater. -/
def gt (a b : Operand) : Expression := node .gt a [b]

/-- The first is less. -/
def lt (a b : Operand) : Expression := node .lt a [b]

/-- The first is at most the second. -/
def le (a b : Operand) : Expression := node .le a [b]

/-- The first is at least the second. -/
def ge (a b : Operand) : Expression := node .ge a [b]

/-- Both hold. -/
def and (a b : Operand) : Expression := node .and a [b]

/-- One of them holds. -/
def or (a b : Operand) : Expression := node .or a [b]

/-- It does not hold. -/
def not (a : Operand) : Expression := node .not a []

/-- The subject is one of the candidates. -/
def isIn (subject : Operand) (candidates : List Operand) : Expression :=
  node .isIn subject candidates

end Expression

/-! ## Depth -/

mutual

/-- The number of operators on the longest branch. -/
def Expression.depth : Expression → Nat
  | .node _ first rest => 1 + max first.depth (Operand.depthOfList rest)

/-- The depth of a nested expression; nothing else has any. -/
def Operand.depth : Operand → Nat
  | .value _ => 0
  | .field _ => 0
  | .identifier _ => 0
  | .nested e => e.depth

/-- The greatest depth in a list of operands. -/
def Operand.depthOfList : List Operand → Nat
  | [] => 0
  | o :: os => max o.depth (Operand.depthOfList os)

end

/-! ## Text -/

mutual

/-- The symbol and the texts of the operands, separated by single spaces. -/
def Expression.text : Expression → String
  | .node op first rest => op.symbol ++ " " ++ first.text ++ Operand.textOfList rest

/-- The text of an operand. -/
def Operand.text : Operand → String
  | .value scalar => scalar.text
  | .field name => name
  | .identifier name => name
  | .nested e => e.text

/-- The texts of operands, each behind a space. -/
def Operand.textOfList : List Operand → String
  | [] => ""
  | o :: os => " " ++ o.text ++ Operand.textOfList os

end

/-! ## Sameness -/

mutual

/-- Whether two expressions agree everywhere; values are compared by `Scalar.same`. -/
def Expression.same : Expression → Expression → Bool
  | .node op o os, .node op' o' os' => op == op' && o.same o' && Operand.sameList os os'

/-- Whether two operands agree. -/
def Operand.same : Operand → Operand → Bool
  | .value a, .value b => a.same b
  | .field a, .field b => a == b
  | .identifier a, .identifier b => a == b
  | .nested a, .nested b => a.same b
  | _, _ => false

/-- Whether two lists of operands agree. -/
def Operand.sameList : List Operand → List Operand → Bool
  | [], [] => true
  | o :: os, o' :: os' => o.same o' && Operand.sameList os os'
  | _, _ => false

end

instance : BEq Expression := ⟨Expression.same⟩
instance : BEq Operand := ⟨Operand.same⟩

/-! ## Structural JSON -/

mutual

/-- An object that names the operator by its symbol and lists the operands. -/
def Expression.toJson : Expression → Json
  | .node op first rest =>
    .object [("operands", .array (first.toJson :: Operand.toJsonList rest)),
      ("operator", .string op.symbol)]

/-- The JSON form of an operand; names become strings. -/
def Operand.toJson : Operand → Json
  | .value scalar => scalar.toJson
  | .field name => .string name
  | .identifier name => .string name
  | .nested e => e.toJson

/-- The JSON forms of operands. -/
def Operand.toJsonList : List Operand → List Json
  | [] => []
  | o :: os => o.toJson :: Operand.toJsonList os

end

end MailFilter
