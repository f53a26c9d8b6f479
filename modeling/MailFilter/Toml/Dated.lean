import MailFilter.Toml.Numeral

/-!
# Tables that stand for dates

A table whose first key is a reserved one stands for a date or a time, which is written as a
string under that key. Whatever else is in the table does not matter. The string has a grammar of
its own, a little wider than that of the dates of a settings file: the day may end at the hour
24, and the minutes of an offset may be more than an hour has, as long as the offset is at most
a day.

`dated?` puts dates in the place of such tables everywhere in a table, and fails if one of them
holds no date. The table of a whole file cannot stand for a date itself.
-/

namespace MailFilter.Toml

/-- The key of a table that stands for a date. -/
def dateKey : String := "$__toml_private_datetime"

/-- The minutes of a day. -/
def minutesOfDay : Nat := 1440

/-- The offset of a time in a string, all of the text being it, as canonical text. -/
def longOffset? : List Char → Option String
  | [] => some ""
  | ['Z'] | ['z'] => some "Z"
  | sign :: cs => do
    if sign ≠ '+' ∧ sign ≠ '-' then none
    let (hours, cs) ← fixed? 2 cs
    let cs ← exactly? ':' cs
    let (minutes, cs) ← fixed? 2 cs
    let total := 60 * hours + minutes
    if !cs.isEmpty ∨ minutesOfDay < total then none
    let shown := if total = 0 then "+" else String.singleton sign
    pure (shown ++ padded 2 (total / 60) ++ ":" ++ padded 2 (total % 60))

/-- A date, a date with a time, or a time alone in a string, as canonical text. -/
def dateOfText? (cs : List Char) : Option String :=
  match date? cs with
  | some (date, []) => some date
  | some (date, c :: rest) => do
    if c ≠ 'T' ∧ c ≠ 't' ∧ c ≠ ' ' then none
    let (time, cs) ← time? 24 rest
    let offset ← longOffset? cs
    pure (date ++ "T" ++ time ++ offset)
  | none =>
    match time? 24 cs with
    | some (time, []) => some time
    | _ => none

/-- Whether a table with these entries stands for a date. -/
def standsForDate (entries : List (String × Value)) : Bool :=
  (entries.head?.map Prod.fst) == some dateKey

/-- The date that a table with these entries stands for. -/
def dateOfEntries? : List (String × Value) → Option Value
  | (_, .string text) :: _ => (dateOfText? text.toList).map Value.datetime
  | _ => none

mutual

/-- A value with dates in the place of the tables that stand for them. -/
def Value.dated? : Value → Option Value
  | .table entries =>
    if standsForDate entries then dateOfEntries? entries else (datedEntries? entries).map .table
  | .array items => (datedItems? items).map .array
  | .null => some .null
  | .string s => some (.string s)
  | .integer i => some (.integer i)
  | .float x => some (.float x)
  | .boolean b => some (.boolean b)
  | .datetime text => some (.datetime text)

/-- Entries with dates in the place of the tables that stand for them. -/
def datedEntries? : List (String × Value) → Option (List (String × Value))
  | [] => some []
  | (key, v) :: rest => do
    let v ← v.dated?
    let rest ← datedEntries? rest
    pure ((key, v) :: rest)

/-- Items with dates in the place of the tables that stand for them. -/
def datedItems? : List Value → Option (List Value)
  | [] => some []
  | v :: rest => do
    let v ← v.dated?
    let rest ← datedItems? rest
    pure (v :: rest)

end

/-- The entries of a file with dates in the place of the tables that stand for them. -/
def dated? (entries : List (String × Value)) : Option (List (String × Value)) :=
  if standsForDate entries then none else datedEntries? entries

end MailFilter.Toml
