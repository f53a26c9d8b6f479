import MailFilter.Decimal.Layout
import MailFilter.Decimal.Reading
import MailFilter.Settings.Basic
import MailFilter.Settings.Layer

/-!
# Settings out of tables

The same table is understood in one of two manners. **Exactly**: a text is a string, a number is
an integer, and names are spelled as they are. **Loosely**: scalars stand in for each other where
that makes sense, so that `"3"` and `true` serve as the numbers 3 and 1 and a number serves as a
text, and the letter case of names does not matter. A manner is a record of these decisions, and
all else is the same in both: members that are missing have their defaults, members of other
names are passed over, and a section may be given as a list of its members in order.
-/

namespace MailFilter

open Toml (Value)

/-- How the values of a table are understood. -/
structure Manner where
  /-- The text that a value serves as. -/
  text? : Value → Option String
  /-- The natural number that a value serves as. -/
  natural? : Value → Option Nat
  /-- Whether a word means a name. -/
  means : String → String → Bool
  /-- Whether a value may stand behind a name that is chosen by being the only key of a table. -/
  followsName : Value → Bool
  /-- Whether a date counts as a section without members. -/
  datesAreSections : Bool

namespace Manner

/-- The value of a string. -/
def exactText? : Value → Option String
  | .string s => some s
  | _ => none

/-- The value of an integer that is not negative. -/
def exactNatural? : Value → Option Nat
  | .integer i => if 0 ≤ i then some i.toNat else none
  | _ => none

/-- Whether a value is a table or a list, and empty. -/
def isEmpty : Value → Bool
  | .table entries => entries.isEmpty
  | .array items => items.isEmpty
  | _ => false

/-- The manner that takes every value as what it is. -/
def exact : Manner where
  text? := exactText?
  natural? := exactNatural?
  means word name := word == name
  followsName := isEmpty
  datesAreSections := true

/-- Any scalar as a text. -/
def looseText? : Value → Option String
  | .null => none
  | .string s => some s
  | .integer i => some (toString i)
  | .float x => some (Decimal.shown x)
  | .boolean true => some "true"
  | .boolean false => some "false"
  | .datetime text => some text
  | .array _ => none
  | .table _ => none

/-- A letter-case variant of one of some words. -/
def isOneOf (words : List String) (s : String) : Bool :=
  words.any fun word => word.toList == s.toList.map Char.toLower

/-- A word for yes or no, or the digits of an unsigned 64-bit integer. -/
def naturalOfText? (s : String) : Option Nat :=
  if isOneOf ["true", "on", "yes"] s then some 1
  else if isOneOf ["false", "off", "no"] s then some 0
  else (Decimal.natural? s.toList).filter (· < Decimal.unsignedEnd)

/-- Any scalar that can be one as a natural number; a float as the whole number next to it, ties
away from zero, or the nearest that fits in 64 bits. -/
def looseNatural? : Value → Option Nat
  | .null => none
  | .string s => naturalOfText? s
  | .integer i => if 0 ≤ i then some i.toNat else none
  | .float x => some x.round.toUInt64.toNat
  | .boolean true => some 1
  | .boolean false => some 0
  | .datetime _ => none
  | .array _ => none
  | .table _ => none

/-- The manner in which scalars stand in for each other. -/
def loose : Manner where
  text? := looseText?
  natural? := looseNatural?
  means word name := word.toList.map Char.toLower == name.toList.map Char.toLower
  followsName _ := true
  datesAreSections := false

/-! ## Members and sections -/

/-- The choice that a value names, either as a string or as the only key of a table. -/
def choice? {α : Type} (m : Manner) (all : List α) (name : α → String) : Value → Option α
  | .string word => all.find? fun a => m.means word (name a)
  | .table [(word, v)] => if m.followsName v then all.find? fun a => m.means word (name a) else none
  | _ => none

/-- The fallback that a value names. -/
def fallback? (m : Manner) : Value → Option Fallback :=
  m.choice? [.permissive, .strict] Fallback.name

/-- The dialect that a value names. -/
def dialect? (m : Manner) : Value → Option Dialect :=
  m.choice? [.polish, .searchQuery] Dialect.name

/-- Whether a value can be a section. -/
def isSection (m : Manner) : Value → Bool
  | .table _ => true
  | .array _ => true
  | .datetime _ => m.datesAreSections
  | _ => false

/-- The member of a section that has a name and, in a list, a position. -/
def member? (name : String) (position : Nat) : Value → Option Value
  | .table entries => Layer.get? name entries
  | .array items => items[position]?
  | _ => none

/-- The default if nothing is given, and otherwise what is given is read. -/
def orDefault {α : Type} (default : α) (read? : Value → Option α) : Option Value → Option α
  | none => some default
  | some v => read? v

/-- The logging section. -/
def logging? (m : Manner) (section? : Value) : Option LogSettings :=
  if m.isSection section? then do
    let level ← orDefault "info" m.text? (member? "level" 0 section?)
    let format ← orDefault "text" m.text? (member? "format" 1 section?)
    pure ⟨level, format⟩
  else none

/-- The filter section. -/
def filter? (m : Manner) (section? : Value) : Option FilterSettings :=
  if m.isSection section? then do
    let maxDepth ← orDefault 32 m.natural? (member? "max_depth" 0 section?)
    let fallback ← orDefault .strict m.fallback? (member? "field_fallback" 1 section?)
    let dialect ← orDefault .polish m.dialect? (member? "notation" 2 section?)
    pure ⟨maxDepth, fallback, dialect⟩
  else none

/-- Both sections. -/
def settings? (m : Manner) (entries : Layer.Entries) : Option Settings := do
  let logging ← orDefault {} m.logging? (Layer.get? "logging" entries)
  let filter ← orDefault {} m.filter? (Layer.get? "filter" entries)
  pure ⟨logging, filter⟩

end Manner

end MailFilter
