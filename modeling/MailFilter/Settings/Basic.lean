import MailFilter.Json.Printer

/-!
# Settings

The settings of the program are in two sections: how it logs, and how it treats filters. Every
setting has a default, so a source of settings may leave out whatever it likes.
-/

namespace MailFilter

/-- What to do with a key of a payload that spells no operator: accept it as a field name
wherever it stands, or only directly under an operator and only if it looks like one. -/
inductive Fallback where
  | permissive
  | strict
deriving DecidableEq, Repr, Inhabited

/-- The dialects in which a filter can be written. -/
inductive Dialect where
  | polish
  | searchQuery
deriving DecidableEq, Repr, Inhabited

/-- The name of a fallback in sources of settings. -/
def Fallback.name : Fallback → String
  | permissive => "permissive"
  | strict => "strict"

/-- The name of a dialect in sources of settings. -/
def Dialect.name : Dialect → String
  | polish => "polish"
  | searchQuery => "search_query"

/-- How filters are read and written. -/
structure FilterSettings where
  maxDepth : Nat := 32
  fallback : Fallback := .strict
  dialect : Dialect := .polish
deriving DecidableEq, Repr, Inhabited

/-- How the program logs. -/
structure LogSettings where
  level : String := "info"
  format : String := "text"
deriving DecidableEq, Repr, Inhabited

/-- All settings. -/
structure Settings where
  logging : LogSettings := {}
  filter : FilterSettings := {}
deriving DecidableEq, Repr, Inhabited

/-! ## Settings as compact JSON text, in the order of declaration -/

/-- The filter section. -/
def FilterSettings.compact (s : FilterSettings) : String :=
  "\x7b\"max_depth\":" ++ toString s.maxDepth ++
  ",\"field_fallback\":" ++ Json.quoted s.fallback.name ++
  ",\"notation\":" ++ Json.quoted s.dialect.name ++ "\x7d"

/-- The logging section. -/
def LogSettings.compact (s : LogSettings) : String :=
  "\x7b\"level\":" ++ Json.quoted s.level ++ ",\"format\":" ++ Json.quoted s.format ++ "\x7d"

/-- Both sections. -/
def Settings.compact (s : Settings) : String :=
  "\x7b\"logging\":" ++ s.logging.compact ++ ",\"filter\":" ++ s.filter.compact ++ "\x7d"

end MailFilter
