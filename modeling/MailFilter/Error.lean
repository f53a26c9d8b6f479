import MailFilter.Expression
import MailFilter.Json.Reader
import MailFilter.Payload.Attempt

/-!
# What a caller is told

Whatever goes wrong inside is reported to a caller as one of six kinds of error. The kind alone
decides the stable code and the status; the detail only goes into the message. A payload that
cannot be read is the caller's fault in three different ways: it is no JSON, it is JSON but no
filter, or it is a filter that cannot be written under the limits asked for.
-/

namespace MailFilter

/-- The kinds of error that a caller can be told about. -/
inductive ErrorKind where
  | configuration
  | validation
  | invalidFilter
  | rendering
  | internal
  | other
deriving DecidableEq, Repr, Inhabited

/-- An error as a caller sees it. -/
structure Error where
  kind : ErrorKind
  detail : String
deriving DecidableEq, Repr, Inhabited

/-- The stable code of a kind of error. -/
def ErrorKind.code : ErrorKind → String
  | configuration => "CONFIG_ERROR"
  | validation => "VALIDATION_ERROR"
  | invalidFilter => "INVALID_FILTER"
  | rendering => "RENDER_ERROR"
  | internal | other => "INTERNAL_ERROR"

/-- The status a server answers with. -/
def ErrorKind.status : ErrorKind → Nat
  | configuration | internal | other => 500
  | validation => 422
  | invalidFilter | rendering => 400

/-- The words in front of the detail. -/
def ErrorKind.heading : ErrorKind → String
  | configuration => "Configuration error: "
  | validation => "Validation error: "
  | invalidFilter => "Invalid filter: "
  | rendering => "Render error: "
  | internal => "Internal error: "
  | other => ""

/-- The text shown for an error. -/
def Error.message (e : Error) : String :=
  e.kind.heading ++ e.detail

/-- The error of a payload text that is no JSON. -/
def Error.ofFault (text : String) (fault : Json.Fault) : Error :=
  ⟨.validation, "Malformed JSON payload: " ++ fault.message text⟩

/-- The error of a payload that describes no filter. -/
def Error.ofPayload (e : PayloadError) : Error :=
  ⟨.invalidFilter, e.message⟩

/-- The error of a filter that cannot be written. -/
def Error.ofRender (e : RenderError) : Error :=
  ⟨.rendering, e.message⟩

/-- The refusal, by a reader of payloads, of an operator without operands. -/
def PayloadError.ofNoOperands (operator : String) : PayloadError :=
  .noOperands operator

end MailFilter
