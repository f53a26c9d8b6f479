import MailFilter.Key
import MailFilter.Rendering.Basic

/-!
# From an expression to a payload

An expression is exported as an object whose key is the operator's symbol. If the first operand
is a name that can be a field key and other operands follow, those are put under that key, a
single one without a list around it; in all other cases the operands are listed. Names that do
not become keys become strings, so the export of an expression of any form is a payload, and
only the limit on depth can prevent it.
-/

namespace MailFilter

/-- The name under which the operands after the first are put, if they are. -/
def fieldKey? (first : Operand) (rest : List Operand) : Option String :=
  let name? :=
    match first with
    | .field name => some name
    | .identifier name => some name
    | _ => none
  match name? with
  | some name => if isFieldKey name && !rest.isEmpty then some name else none
  | none => none

/-- The key is the name that comes first, if it can be one and something follows it. -/
theorem fieldKey?_eq_some_iff {first : Operand} {rest : List Operand} {name : String} :
    fieldKey? first rest = some name ↔
      (first = .field name ∨ first = .identifier name) ∧ isFieldKey name = true ∧ rest ≠ [] := by
  have hrest : (!rest.isEmpty) = true ↔ rest ≠ [] := by cases rest <;> simp
  cases first with
  | value s => simp [fieldKey?]
  | nested e => simp [fieldKey?]
  | _ =>
    simp only [fieldKey?, Option.ite_none_right_eq_some, Bool.and_eq_true, hrest,
      Option.some.injEq, Operand.field.injEq, Operand.identifier.injEq, reduceCtorEq, or_false,
      false_or]
    constructor
    · rintro ⟨⟨hkey, hne⟩, rfl⟩
      exact ⟨rfl, hkey, hne⟩
    · rintro ⟨rfl, hkey, hne⟩
      exact ⟨⟨hkey, hne⟩, rfl⟩

/-- An operand that becomes a key is a name, so it has no depth. -/
theorem depth_of_fieldKey? {first : Operand} {rest : List Operand} {name : String}
    (h : fieldKey? first rest = some name) : first.depth = 0 := by
  rcases (fieldKey?_eq_some_iff.mp h).1 with rfl | rfl <;> rfl

/-- What stands under a field key: a value alone, or a list of them. -/
def fieldBody : List Json → Json
  | [value] => value
  | values => .array values

mutual

/-- The payload of an expression that stands at the given level. -/
def Expression.exportAt (limit level : Nat) : Expression → Except RenderError Json
  | .node op first rest =>
    withinDepth limit level <|
      match fieldKey? first rest with
      | some name => do
        -- the name is the key now, so only what follows it is listed
        let values ← Operand.exportListAt limit level rest
        pure (.single op.symbol (.single name (fieldBody values)))
      | none => do
        let value ← first.exportAt limit level
        let values ← Operand.exportListAt limit level rest
        pure (.single op.symbol (.array (value :: values)))

/-- The payload of an operand of an expression at the given level. -/
def Operand.exportAt (limit level : Nat) : Operand → Except RenderError Json
  | .value scalar => .ok scalar.toJson
  | .field name => .ok (.string name)
  | .identifier name => .ok (.string name)
  | .nested e => e.exportAt limit (level + 1)

/-- The payloads of operands. -/
def Operand.exportListAt (limit level : Nat) : List Operand → Except RenderError (List Json)
  | [] => .ok []
  | o :: os => do
    let value ← o.exportAt limit level
    let values ← Operand.exportListAt limit level os
    pure (value :: values)

end

/-- The payload of an expression within a limit on its depth. -/
def Expression.toPayload (limit : Nat) (e : Expression) : Except RenderError Json :=
  e.exportAt limit 1

end MailFilter
