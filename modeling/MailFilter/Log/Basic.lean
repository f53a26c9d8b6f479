import MailFilter.Decimal.Reading

/-!
# The log

What the program reports about its own work are records, each with a level, a target that names
the part of the program it comes from, a message, and the names of the fields it carries. The
message is one of these fields.
-/

namespace MailFilter.Log

/-- How much is written, or how much a record weighs; nothing is recorded at `off`. -/
inductive Level where
  | off
  | error
  | warn
  | info
  | debug
  | trace
deriving DecidableEq, Repr

/-- The place of a level in the order of rising detail. -/
def Level.detail : Level → Nat
  | off => 0
  | error => 1
  | warn => 2
  | info => 3
  | debug => 4
  | trace => 5

/-- The name of a level. -/
def Level.name : Level → String
  | off => "off"
  | error => "error"
  | warn => "warn"
  | info => "info"
  | debug => "debug"
  | trace => "trace"

/-- Every level. -/
def Level.all : List Level := [off, error, warn, info, debug, trace]

/-- The level that a text names, either by its number or by its name in any letter case. -/
def Level.ofText? (cs : List Char) : Option Level :=
  match Decimal.natural? cs with
  | some n => all.find? fun level => level.detail == n
  | none => all.find? fun level => level.name.toList == cs.map Char.toLower

/-- A thing that the program reports. -/
structure Record where
  level : Level
  target : String
  message : String
  fields : List String := ["message"]
deriving DecidableEq, Repr

end MailFilter.Log
