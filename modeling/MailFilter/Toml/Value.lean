/-!
# Tables of settings

Settings files are written in TOML. What a file says is a table: keys with values, which are
scalars, arrays, or tables again. Dates and times are kept as their canonical text, since no
setting is one.

While a file is read, its tables grow, and how a table came to be decides what may still be
added to it. A table that a header has named is closed to dotted keys of other tables and to
another header; one that only stands on the way to a named one is still open to its own header;
one that dotted keys have made belongs to those. `Grown.put`, `Grown.openTable` and
`Grown.openElement` are the three ways to grow, and each refuses what would define a thing twice.
-/

namespace MailFilter.Toml

/-- A value of a settings file. TOML has no word for `null`; settings files in other formats do. -/
inductive Value where
  | null
  | string (s : String)
  | integer (i : Int)
  | float (x : Float)
  | boolean (b : Bool)
  | datetime (text : String)
  | array (items : List Value)
  | table (entries : List (String × Value))
deriving Inhabited

/-- How a table came to be: named by a header, on the way to a table that is, or through dotted
keys. -/
inductive Origin where
  | header
  | passage
  | dotted
deriving DecidableEq, Repr

/-- A value that may still grow: a finished one, a table, or an array of tables of which the last
is the open one. -/
inductive Grown where
  | value (v : Value)
  | table (origin : Origin) (entries : List (String × Grown))
  | tables (elements : List (List (String × Grown)))

namespace Grown

/-- The entries of a table that may still grow. -/
abbrev Entries := List (String × Grown)

/-- The entry of a key. -/
def get? (key : String) (entries : Entries) : Option Grown :=
  (entries.find? fun e => e.1 == key).map Prod.snd

/-- Exchanges the entry of a key that is present. -/
def set (key : String) (v : Grown) (entries : Entries) : Entries :=
  entries.map fun e => if e.1 == key then (key, v) else e

/-- Adds an entry under a key that must be new. -/
def add (key : String) (v : Grown) (entries : Entries) : Option Entries :=
  if (get? key entries).isSome then none else some (entries ++ [(key, v)])

/-- Puts a value under a dotted key, given by the keys in front of the last one. -/
def put (key : String) (v : Value) : List String → Entries → Option Entries
  | [], entries => add key (.value v) entries
  | p :: path, entries =>
    match get? p entries with
    | none => do
      let inner ← put key v path []
      add p (.table .dotted inner) entries
    | some (.table origin inner) =>
      -- the last table on the way must be one that dotted keys have made
      if origin = .header ∨ (path = [] ∧ origin ≠ .dotted) then none
      else do
        let inner ← put key v path inner
        pure (set p (.table origin inner) entries)
    | some (.tables elements) =>
      if path = [] then none
      else do
        let last ← elements.getLast?
        let last ← put key v path last
        pure (set p (.tables (elements.dropLast ++ [last])) entries)
    | some (.value _) => none

/-- Changes the table at a path, making the tables on the way to it where they are missing. -/
def modify (change : Entries → Option Entries) : List String → Entries → Option Entries
  | [], entries => change entries
  | p :: path, entries =>
    match get? p entries with
    | none => do
      let inner ← modify change path []
      add p (.table .passage inner) entries
    | some (.table origin inner) => do
      let inner ← modify change path inner
      pure (set p (.table origin inner) entries)
    | some (.tables elements) => do
      let last ← elements.getLast?
      let last ← modify change path last
      pure (set p (.tables (elements.dropLast ++ [last])) entries)
    | some (.value _) => none

/-- Opens the table that a header names, which is then the last of its table. -/
def openTable (key : String) : List String → Entries → Option Entries :=
  modify fun entries =>
    match get? key entries with
    | none => add key (.table .header []) entries
    -- on the way to another table so far, and now named itself
    | some (.table .passage inner) =>
      add key (.table .header inner) (entries.filter fun e => e.1 != key)
    | some _ => none

/-- Opens a new element of the array of tables that a header names. -/
def openElement (key : String) : List String → Entries → Option Entries :=
  modify fun entries =>
    match get? key entries with
    | none => add key (.tables [[]]) entries
    | some (.tables elements) => some (set key (.tables (elements ++ [[]])) entries)
    | some _ => none

mutual

/-- The value that has been reached when nothing more is added. -/
def finish : Grown → Value
  | .value v => v
  | .table _ entries => .table (finishEntries entries)
  | .tables elements => .array (finishElements elements)

/-- Finishes every entry of a table. -/
def finishEntries : Entries → List (String × Value)
  | [] => []
  | (key, v) :: rest => (key, finish v) :: finishEntries rest

/-- Finishes every element of an array of tables. -/
def finishElements : List Entries → List Value
  | [] => []
  | entries :: rest => .table (finishEntries entries) :: finishElements rest

end

end Grown

end MailFilter.Toml
