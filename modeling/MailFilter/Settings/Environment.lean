import MailFilter.Decimal.Plain
import MailFilter.Text.Case
import MailFilter.Toml.Value

/-!
# Settings out of the environment

A variable is a setting if its name starts with the agreed word and an underscore, whatever the
letter case. The rest of the name is the key: two underscores in a row stand for a point, so
`MAILQUERY_FILTER__MAX_DEPTH` is the key `filter.max_depth`. The text of a variable is taken for
a boolean, an integer or a float if it is one, and for a text otherwise.
-/

namespace MailFilter

/-- The variables of an environment with their values. -/
abbrev Environment := List (String × String)

namespace Environment

open Toml (Value)

/-! ## The values of variables -/

/-- The value that the text of a variable stands for. -/
def value (text : String) : Value :=
  let cs := text.toList
  let word := cs.map Char.toLower
  if word = "true".toList then .boolean true
  else if word = "false".toList then .boolean false
  else
    (((Decimal.integer? cs).map Value.integer).or ((Decimal.float? cs).map Value.float)).getD
      (.string text)

/-! ## The names of variables -/

/-- A name with a point for every two underscores in a row. -/
def pointed : List Char → List Char
  | '_' :: '_' :: cs => '.' :: pointed cs
  | c :: cs => c :: pointed cs
  | [] => []

/-- The key that a variable sets, in small letters, if its name starts with the agreed word. -/
def key? (word : String) (name : String) : Option String :=
  let start := (Text.lower (word ++ "_")).toList
  let cs := (Text.lower name).toList
  if start.isPrefixOf cs then some (String.ofList (pointed (cs.drop start.length))) else none

end Environment

end MailFilter
