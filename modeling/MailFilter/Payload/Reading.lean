import MailFilter.Key
import MailFilter.Payload.Attempt
import MailFilter.Settings.Basic

/-!
# From a payload to an expression

A payload is a JSON value in which objects have a single key. An object whose key spells an
operator is that operator applied to what its value holds; an object with any other key stands
for the field of that name followed by what its value holds; lists string operands together and
may be nested, which means nothing; everything else is a literal.

Two counters keep a payload from being followed down without end. The *depth* counts the
operators around the current place and may not exceed the limit of the settings. The *nesting*
counts the lists and field objects since the last operator, and may not exceed eight.

Under the strict fallback a field object may stand only directly under an operator, and its key
has to be a field name. Under the permissive one it may stand anywhere; a key that looks like a
mistyped operator is then warned about. At the root, a field object alone means that the field
equals what its value holds.
-/

namespace MailFilter

/-- The number of lists and field objects that may be nested without an operator between them. -/
def maxNesting : Nat := 8

/-- What a part of a payload was read as. -/
inductive Part where
  | literal (scalar : Scalar)
  | operands (operands : List Operand)
  | expression (e : Expression)

/-- The operands that a part contributes to what is around it. -/
def Part.toOperands : Part → List Operand
  | literal scalar => [.value scalar]
  | operands os => os
  | expression e => [.nested e]

@[simp] theorem Part.toOperands_literal (scalar : Scalar) :
    (literal scalar).toOperands = [.value scalar] := rfl

@[simp] theorem Part.toOperands_operands (os : List Operand) : (operands os).toOperands = os := rfl

@[simp] theorem Part.toOperands_expression (e : Expression) :
    (expression e).toOperands = [.nested e] := rfl

/-- Where a part of a payload stands. -/
inductive Position where
  | root
  | underOperator
  | inSequence
deriving DecidableEq, Repr

/-- Passes into a list or a field object; the number of those now open. -/
def enterContainer (nesting : Nat) : Attempt Nat :=
  if maxNesting < nesting + 1 then .fail (.nestingExceeded maxNesting) else .ok (nesting + 1)

/-- Checks a key that spells no operator. -/
def checkField (fallback : Fallback) (position : Position) (key : String) : Attempt Unit :=
  match fallback with
  | .permissive => if looksLikeOperator key then .warn key else .ok ()
  | .strict =>
    if looksLikeOperator key then .fail (.unrecognizedOperator key)
    else if position = .underOperator ∧ isFieldName key = true then .ok ()
    else .fail (.misplacedField key)

/-- The operator of a key applied to operands, of which there must be one. -/
def applyOperator (key : String) (op : Operator) : List Operand → Attempt Expression
  | [] => .fail (.noOperands key)
  | o :: os => .ok (.node op o os)

mutual

/-- Reads the part of a payload that stands at a position, under `depth` operators and `nesting`
containers since the last of them. -/
def readPart (limit : Nat) (fallback : Fallback) (depth nesting : Nat) (position : Position) :
    Json → Attempt Part
  | .null => .ok (.literal .null)
  | .bool b => .ok (.literal (.bool b))
  | .number n => .ok (.literal (.ofNumber n))
  | .string s => .ok (.literal (.string s))
  | .array items => do
    let inner ← enterContainer nesting
    let os ← readItems limit fallback depth inner items
    pure (.operands os)
  | .object [] => .fail .emptyObject
  | .object [(key, value)] =>
    match Operator.ofToken? key with
    | some op =>
      if limit < depth + 1 then .fail (.depthExceeded limit)
      else do
        -- below an operator the lists and field objects are counted anew
        let part ← readPart limit fallback (depth + 1) 0 .underOperator value
        let e ← applyOperator key op part.toOperands
        pure (.expression e)
    | none => do
      -- the key is judged before the object is counted
      checkField fallback position key
      let inner ← enterContainer nesting
      let part ← readPart limit fallback depth inner .inSequence value
      pure (.operands (.field key :: part.toOperands))
  | .object (first :: second :: others) =>
    .fail (.multipleKeys (", ".intercalate ((first :: second :: others).map Prod.fst)))

/-- Reads the items of a list one after the other. -/
def readItems (limit : Nat) (fallback : Fallback) (depth nesting : Nat) :
    List Json → Attempt (List Operand)
  | [] => .ok []
  | item :: items => do
    let part ← readPart limit fallback depth nesting .inSequence item
    let os ← readItems limit fallback depth nesting items
    pure (part.toOperands ++ os)

end

/-! ## The reader, one form of a part at a time -/

section

variable {limit : Nat} {fallback : Fallback} {depth nesting : Nat} {position : Position}

theorem readPart_literal {j : Json} {s : Scalar} (h : Scalar.ofJson j = .ok s) :
    readPart limit fallback depth nesting position j = .ok (.literal s) := by
  cases j with
  | array => cases h
  | object => cases h
  | _ => cases h; rfl

theorem readPart_array (items : List Json) :
    readPart limit fallback depth nesting position (.array items) = (do
      let inner ← enterContainer nesting
      let os ← readItems limit fallback depth inner items
      pure (.operands os)) :=
  rfl

theorem readPart_object_nil :
    readPart limit fallback depth nesting position (.object []) = .fail .emptyObject :=
  rfl

theorem readPart_operation {key : String} {op : Operator} (value : Json)
    (hop : Operator.ofToken? key = some op) :
    readPart limit fallback depth nesting position (.object [(key, value)]) =
      if limit < depth + 1 then .fail (.depthExceeded limit)
      else (do
        let part ← readPart limit fallback (depth + 1) 0 .underOperator value
        let e ← applyOperator key op part.toOperands
        pure (.expression e)) := by
  show (match Operator.ofToken? key with
    | some op => _
    | none => _) = _
  rw [hop]

theorem readPart_field {key : String} (value : Json) (hop : Operator.ofToken? key = none) :
    readPart limit fallback depth nesting position (.object [(key, value)]) = (do
      checkField fallback position key
      let inner ← enterContainer nesting
      let part ← readPart limit fallback depth inner .inSequence value
      pure (.operands (.field key :: part.toOperands))) := by
  show (match Operator.ofToken? key with
    | some op => _
    | none => _) = _
  rw [hop]

theorem readPart_object_several (first second : String × Json) (others : List (String × Json)) :
    readPart limit fallback depth nesting position (.object (first :: second :: others)) =
      .fail (.multipleKeys (", ".intercalate ((first :: second :: others).map Prod.fst))) :=
  rfl

theorem readItems_nil : readItems limit fallback depth nesting [] = .ok [] :=
  rfl

theorem readItems_cons (x : Json) (xs : List Json) :
    readItems limit fallback depth nesting (x :: xs) = (do
      let part ← readPart limit fallback depth nesting .inSequence x
      let os ← readItems limit fallback depth nesting xs
      pure (part.toOperands ++ os)) :=
  rfl

end

/-- The expression that the whole payload was read as. Operands alone make one only if they come
from a field object, which then means equality. -/
def rootExpression : Json → Part → Attempt Expression
  | _, .expression e => .ok e
  | .object _, .operands (o :: os) => .ok (.node .eq o os)
  | _, _ => .fail .notAnExpression

/-- Reads a payload as an expression of at most the given depth. -/
def readPayload (limit : Nat) (fallback : Fallback) (payload : Json) : Attempt Expression := do
  let part ← readPart limit fallback 0 0 .root payload
  rootExpression payload part

end MailFilter
