import MailFilter.Decimal.Reading
import MailFilter.Text.Case
import MailFilter.Toml.Value

/-!
# Layers of settings

Settings come from several sources, each of which may set some keys and leave others alone. What
they amount to is a table, and it is read off with `find?`, which follows a path of keys. A key
that is put in place is found again and disturbs no other key (`get?_put_self`, `get?_put_of_ne`).

How sources are laid is a matter of the library that is used. Here is one way: a source is a
table, and laying it over what the sources before it have set goes key by key: where both have a
table the tables are laid over each other, and anywhere else the later source wins. An empty table
sets nothing, so it leaves whatever it is laid over. Letter case does not matter in keys, so every
key is made small on the way. A key at the top of a source may be a path: keys joined by points,
and positions in lists in brackets. Following a path makes the tables and lists on the way where
they are missing.
-/

namespace MailFilter.Layer

open Toml (Value)

/-- The entries of a table of settings. -/
abbrev Entries := List (String × Value)

/-- The value of a key. -/
def get? (key : String) (entries : Entries) : Option Value :=
  (entries.find? fun e => e.1 == key).map Prod.snd

/-- Gives a key its value, in the place of the one it had. -/
def put (key : String) (v : Value) : Entries → Entries
  | [] => [(key, v)]
  | e :: rest => if e.1 = key then (key, v) :: rest else e :: put key v rest

/-- The value at the end of a path of keys. -/
def find? : List String → Entries → Option Value
  | [], _ => none
  | [key], entries => get? key entries
  | key :: path, entries =>
    match get? key entries with
    | some (.table inner) => find? path inner
    | _ => none

/-- The entries that a table can be laid over: those of another table, or none. -/
def entriesOf : Option Value → Entries
  | some (.table entries) => entries
  | _ => []

/-- The items that a position can be looked for in: those of a list, or none. -/
def itemsOf : Option Value → List Value
  | some (.array items) => items
  | _ => []

mutual

/-- A value laid over what is in its place. -/
def laidOver (below : Option Value) : Value → Value
  | .table [] => below.getD (.table [])
  | .table (e :: entries) => .table (lay (e :: entries) (entriesOf below))
  | .null => .null
  | .string s => .string s
  | .integer i => .integer i
  | .float x => .float x
  | .boolean b => .boolean b
  | .datetime text => .datetime text
  | .array items => .array items

/-- The entries of a later source laid over those of the earlier ones. -/
def lay : Entries → Entries → Entries
  | [], below => below
  | (key, v) :: above, below =>
    let key := Text.lower key
    lay above (put key (laidOver (get? key below) v) below)

end

/-! ## Keys that are paths -/

/-- A step on the way to a setting: to a key of a table, or to a position in a list, which
counts from the end if it is negative. -/
inductive Step where
  | key (name : String)
  | position (i : Int)
deriving DecidableEq, Repr

/-- What stands at a position of a list that nothing has been put at. It serves as no setting. -/
def gap : Value := .array []

/-- A list that is long enough for a position, and the place of that position in it. A list is
too short for a position behind its end or before its start, and gaps make up for that. -/
def reach (items : List Value) (i : Int) : List Value × Nat :=
  if 0 ≤ i then (items ++ List.replicate (i.natAbs + 1 - items.length) gap, i.natAbs)
  else (List.replicate (i.natAbs - items.length) gap ++ items, items.length - i.natAbs)

/-- A value put at the end of a path, with the tables and lists on the way to it. At a key it is
laid over what is there; at a position it stands as it is. -/
def place (v : Value) : List Step → Option Value → Value
  | [], _ => v
  | .key name :: steps, below =>
    let entries := entriesOf below
    let there := get? name entries
    .table (put name (if steps.isEmpty then laidOver there v else place v steps there) entries)
  | .position i :: steps, below =>
    let (items, n) := reach (itemsOf below) i
    .array (items.set n (place v steps items[n]?))

/-- The characters that the names of a path are made of; ASCII only. -/
def isNameChar (c : Char) : Bool :=
  c.isAlphanum || c == '_' || c == '-' || c == ' '

/-- The step to the key of a name, if it is one, in small letters. -/
def Step.ofName? (name : List Char) : Option Step :=
  if name.isEmpty || !name.all isNameChar then none
  else some (.key (Text.lower (String.ofList name)))

/-- A text without the blanks around it. -/
def withoutBlanks (cs : List Char) : List Char :=
  let isBlank := fun c => c == ' ' || c == '\t'
  ((cs.dropWhile isBlank).reverse.dropWhile isBlank).reverse

/-- The step to the position that a text of digits stands for, perhaps behind a minus. -/
def Step.ofDigits? (cs : List Char) : Option Step := do
  let i ←
    match cs with
    | '-' :: digits => (Decimal.whole? digits).map (Decimal.signed true)
    | digits => (Decimal.whole? digits).map (Decimal.signed false)
  if Decimal.fitsSigned i then some (.position i) else none

/-- The step that is written behind others: a name behind a point, or a position in brackets. -/
def Step.ofText? : List Char → Option Step
  | '.' :: name => Step.ofName? name
  | '[' :: cs => if cs.getLast? = some ']' then Step.ofDigits? (withoutBlanks cs.dropLast) else none
  | _ => none

/-- The steps of a text that is a path: a name with other steps behind it. -/
def path? (key : List Char) : Option (List Step) :=
  match key.splitBy fun _ c => c != '.' && c != '[' with
  | [] => none
  | first :: others => do
    let first ← Step.ofName? first
    let others ← others.mapM Step.ofText?
    pure (first :: others)

/-- The path that a key at the top of a source stands for. A key that is no path is a key as it
is. -/
def path (key : String) : List Step :=
  (path? key.toList).getD [.key (Text.lower key)]

/-- The entries of a table with a value put at the end of a path. -/
def placed (v : Value) (steps : List Step) (entries : Entries) : Entries :=
  entriesOf (some (place v steps (some (.table entries))))

/-! ## What is put in place is found again -/

@[simp] theorem get?_put_self (key : String) (v : Value) (entries : Entries) :
    get? key (put key v entries) = some v := by
  induction entries with
  | nil => simp [get?, put]
  | cons e rest ih =>
    unfold put
    split
    · simp [get?]
    · rename_i h
      simpa [get?, List.find?_cons, h] using ih

theorem get?_put_of_ne {key other : String} (h : other ≠ key) (v : Value) (entries : Entries) :
    get? other (put key v entries) = get? other entries := by
  induction entries with
  | nil => simp [get?, put, Ne.symm h]
  | cons e rest ih =>
    unfold put
    split
    · rename_i he
      have hne : e.1 ≠ other := fun heq => h (heq.symm.trans he)
      simp [get?, Ne.symm h, hne]
    · by_cases he : e.1 = other
      · simp [get?, he]
      · simpa [get?, List.find?_cons, he] using ih

/-! ## Following a path of keys -/

theorem find?_nil_entries (keys : List String) : find? keys [] = none := by
  match keys with
  | [] => rfl
  | [_] => rfl
  | _ :: _ :: _ => rfl

/-- A path of several keys goes on in the table under the first of them, if there is one. -/
theorem find?_cons_cons (key next : String) (keys : List String) (entries : Entries) :
    find? (key :: next :: keys) entries =
      find? (next :: keys) (entriesOf (get? key entries)) := by
  rw [find?.eq_3 _ _ _ (by simp)]
  cases hget : get? key entries with
  | none => exact (find?_nil_entries _).symm
  | some v =>
    cases v with
    | table inner => rfl
    | _ => exact (find?_nil_entries _).symm

/-- Only what stands under the first key of a path matters to it. -/
theorem find?_cons_congr {key : String} {entries entries' : Entries}
    (h : get? key entries = get? key entries') (keys : List String) :
    find? (key :: keys) entries = find? (key :: keys) entries' := by
  cases keys with
  | nil => exact h
  | cons next keys => rw [find?_cons_cons, find?_cons_cons, h]

end MailFilter.Layer
