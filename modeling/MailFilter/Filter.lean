import MailFilter.Error
import MailFilter.Payload.Export
import MailFilter.Payload.Reading
import MailFilter.Rendering.Polish
import MailFilter.Rendering.Search

/-!
# Filters

A filter is an expression together with what a caller does with it: read it from a payload,
write it in a dialect, export it again. All three go by the same settings and count depth in the
same unit, the operators on a branch.
-/

namespace MailFilter

/-- Writes an expression in a dialect, within a limit on its depth. -/
def Dialect.render (dialect : Dialect) (limit : Nat) (e : Expression) : Except RenderError String :=
  match dialect with
  | .polish => e.polish limit
  | .searchQuery => e.search limit

/-- Writes an operand that stands alone. -/
def Dialect.renderOperand (dialect : Dialect) (limit : Nat) (o : Operand) :
    Except RenderError String :=
  match dialect with
  | .polish => o.polish limit
  | .searchQuery => o.search limit

/-- Writes an operator that stands alone. -/
def Dialect.renderOperator (dialect : Dialect) (op : Operator) : String :=
  match dialect with
  | .polish => op.symbol
  | .searchQuery => op.word

/-- A search filter. -/
structure Filter where
  expression : Expression
deriving Inhabited

namespace Filter

/-- Reads a decoded payload under the given settings. -/
def ofJson (settings : FilterSettings) (payload : Json) : Attempt Filter := do
  let e ← readPayload settings.maxDepth settings.fallback payload
  pure ⟨e⟩

/-- Reads a payload from its text: the warnings given on the way, and the filter or the error. -/
def ofText (settings : FilterSettings) (text : String) : List String × Except Error Filter :=
  match Json.read text with
  | .error fault => ([], .error (.ofFault text fault))
  | .ok payload =>
    let attempt := ofJson settings payload
    (attempt.warnings, attempt.outcome.mapError .ofPayload)

/-- The text shown for a filter. -/
def text (f : Filter) : String :=
  f.expression.text

/-- Writes a filter in the dialect and within the depth that the settings name. -/
def render (settings : FilterSettings) (f : Filter) : Except RenderError String :=
  settings.dialect.render settings.maxDepth f.expression

/-- Exports a filter as a payload within the depth that the settings name. -/
def toJson (settings : FilterSettings) (f : Filter) : Except RenderError Json :=
  f.expression.toPayload settings.maxDepth

end Filter

end MailFilter
