import MailFilter.Toml.Numeral

/-!
# Reading settings files

A file is read line by line: a line is blank, opens a table, opens an element of an array of
tables, or gives a key a value. A scanner takes the characters it wants from the front of the
text and fails without saying where, because nothing but the fact of failure is ever reported.

Arrays and inline tables may be nested to a fixed depth, which is what the recursion on values
goes by; loops over parts that follow each other are bounded by the length of the text, since
every round takes at least one character.
-/

namespace MailFilter.Toml

/-- Takes something from the front of a text, or fails. -/
abbrev Scan := StateT (List Char) Option

namespace Scan

/-- The characters that are left. -/
def left : Scan (List Char) := get

/-- The next character, which is not taken. -/
def peek? : Scan (Option Char) := do
  return (← left).head?

/-- Takes the characters at the front that pass a test. -/
def takeWhile (p : Char → Bool) : Scan (List Char) := do
  let cs ← left
  set (cs.dropWhile p)
  pure (cs.takeWhile p)

/-- Takes one given character. -/
def char (c : Char) : Scan Unit := do
  let rest ← exactly? c (← left)
  set rest

/-- Takes what a function on texts takes. -/
def lift {α : Type} (f : List Char → Option (α × List Char)) : Scan α := do
  let (a, rest) ← f (← left)
  set rest
  pure a

end Scan

open Scan

/-! ## Blanks, comments and ends of lines -/

/-- The characters that may stand between the parts of a line. -/
def isBlank (c : Char) : Bool :=
  c == ' ' || c == '\t'

/-- The characters that a line may hold: no control characters but the tab. -/
def isPrintable (c : Char) : Bool :=
  c == '\t' || (' ' ≤ c && c != '\x7f')

/-- Passes over blanks. -/
def blanks : Scan Unit := do
  let _ ← takeWhile isBlank

/-- Passes over a comment, if there is one. -/
def comment : Scan Unit := do
  if (← peek?) = some '#' then
    let _ ← takeWhile isPrintable

/-- What is behind the end of a line, if the line ends here. -/
def afterNewline? : List Char → Option (List Char)
  | '\n' :: rest => some rest
  | '\r' :: '\n' :: rest => some rest
  | _ => none

/-- Passes over the end of a line, which may also be the end of the text. -/
def lineEnd : Scan Unit := do
  blanks
  comment
  let cs ← left
  if !cs.isEmpty then
    let rest ← afterNewline? cs
    set rest

/-- Passes over blanks, comments and ends of lines, in at most so many rounds. -/
def gap : Nat → Scan Unit
  | 0 => pure ()
  | rounds + 1 => do
    blanks
    comment
    match afterNewline? (← left) with
    | some rest =>
      set rest
      gap rounds
    | none => pure ()

/-- Passes over everything that means nothing inside an array. -/
def anyGap : Scan Unit := do
  gap ((← left).length + 1)

/-! ## Strings -/

/-- The character of a code point that is one. -/
def scalar? (digits : List Char) : Option Char := do
  let values ← digits.mapM (Decimal.digitIn? 16)
  let n := values.foldl (fun n d => n * 16 + d) 0
  if n < 0xD800 ∨ (0xDFFF < n ∧ n < 0x110000) then pure (Char.ofNat n) else none

/-- The character that a letter behind a backslash stands for. -/
def escapedBy? (letter : Char) : Option Char :=
  if letter = 'b' then some '\x08'
  else if letter = 't' then some '\t'
  else if letter = 'n' then some '\n'
  else if letter = 'f' then some '\x0c'
  else if letter = 'r' then some '\r'
  else if letter = '\"' then some '\"'
  else if letter = '\\' then some '\\'
  else none

/-- The rest of a string between quotes, with escapes. -/
def basicRest? : List Char → Option (List Char × List Char)
  | '\"' :: rest => some ([], rest)
  | '\\' :: 'u' :: a :: b :: c :: d :: rest => do
    let x ← scalar? [a, b, c, d]
    let (cs, after) ← basicRest? rest
    pure (x :: cs, after)
  | '\\' :: 'U' :: a :: b :: c :: d :: e :: f :: g :: h :: rest => do
    let x ← scalar? [a, b, c, d, e, f, g, h]
    let (cs, after) ← basicRest? rest
    pure (x :: cs, after)
  | '\\' :: letter :: rest => do
    let x ← escapedBy? letter
    let (cs, after) ← basicRest? rest
    pure (x :: cs, after)
  | c :: rest =>
    if isPrintable c && c != '\\' then do
      let (cs, after) ← basicRest? rest
      pure (c :: cs, after)
    else none
  | [] => none

/-- The rest of a string between apostrophes, in which everything stands for itself. -/
def literalRest? : List Char → Option (List Char × List Char)
  | '\'' :: rest => some ([], rest)
  | c :: rest =>
    if isPrintable c then do
      let (cs, after) ← literalRest? rest
      pure (c :: cs, after)
    else none
  | [] => none

/-- The text behind the end of a line, if nothing but blanks comes before it. -/
def endsLine (cs : List Char) : Bool :=
  (afterNewline? (cs.dropWhile isBlank)).isSome

/-- The rest of a string between triple quotes, with escapes. A backslash at the end of a line
drops everything up to the next character that is neither a blank nor the end of a line, which
is what `dropping` stands for. Up to two quotes may stand before the closing ones. -/
def longBasicRest? (dropping : Bool) : List Char → Option (List Char × List Char)
  | '\"' :: '\"' :: '\"' :: '\"' :: '\"' :: rest => some (['\"', '\"'], rest)
  | '\"' :: '\"' :: '\"' :: '\"' :: rest => some (['\"'], rest)
  | '\"' :: '\"' :: '\"' :: rest => some ([], rest)
  | '\r' :: '\n' :: rest => do
    let (cs, after) ← longBasicRest? dropping rest
    pure (if dropping then cs else '\n' :: cs, after)
  | '\n' :: rest => do
    let (cs, after) ← longBasicRest? dropping rest
    pure (if dropping then cs else '\n' :: cs, after)
  | '\\' :: 'u' :: a :: b :: c :: d :: rest => do
    let x ← scalar? [a, b, c, d]
    let (cs, after) ← longBasicRest? false rest
    pure (x :: cs, after)
  | '\\' :: 'U' :: a :: b :: c :: d :: e :: f :: g :: h :: rest => do
    let x ← scalar? [a, b, c, d, e, f, g, h]
    let (cs, after) ← longBasicRest? false rest
    pure (x :: cs, after)
  | '\\' :: rest =>
    if endsLine rest then longBasicRest? true rest
    else
      match rest with
      | [] => none
      | letter :: rest => do
        let x ← escapedBy? letter
        let (cs, after) ← longBasicRest? false rest
        pure (x :: cs, after)
  | c :: rest =>
    if dropping && isBlank c then longBasicRest? true rest
    else if isPrintable c then do
      let (cs, after) ← longBasicRest? false rest
      pure (c :: cs, after)
    else none
  | [] => none

/-- The rest of a string between triple apostrophes. -/
def longLiteralRest? : List Char → Option (List Char × List Char)
  | '\'' :: '\'' :: '\'' :: '\'' :: '\'' :: rest => some (['\'', '\''], rest)
  | '\'' :: '\'' :: '\'' :: '\'' :: rest => some (['\''], rest)
  | '\'' :: '\'' :: '\'' :: rest => some ([], rest)
  | '\r' :: '\n' :: rest => do
    let (cs, after) ← longLiteralRest? rest
    pure ('\n' :: cs, after)
  | c :: rest =>
    if isPrintable c || c == '\n' then do
      let (cs, after) ← longLiteralRest? rest
      pure (c :: cs, after)
    else none
  | [] => none

/-- An end of line directly behind the opening of a long string does not count. -/
def dropNewline (cs : List Char) : List Char :=
  (afterNewline? cs).getD cs

/-- A string on one line. -/
def shortString? : List Char → Option (List Char × List Char)
  | '\"' :: rest => basicRest? rest
  | '\'' :: rest => literalRest? rest
  | _ => none

/-- A string of any form. -/
def string? : List Char → Option (List Char × List Char)
  | '\"' :: '\"' :: '\"' :: rest => longBasicRest? false (dropNewline rest)
  | '\'' :: '\'' :: '\'' :: rest => longLiteralRest? (dropNewline rest)
  | cs => shortString? cs

/-! ## Keys -/

/-- The characters of a key without quotes. -/
def isKeyChar (c : Char) : Bool :=
  c.isAlphanum || c == '_' || c == '-'

/-- One part of a key. -/
def keyPart : Scan String := do
  let c ← peek?
  if c = some '\"' ∨ c = some '\'' then
    return String.ofList (← lift shortString?)
  let cs ← takeWhile isKeyChar
  if cs.isEmpty then failure
  return String.ofList cs

/-- The number of parts that a dotted key may have. -/
def maxParts : Nat := 79

/-- A key of parts joined by points: the parts in front of the last one, and the last one. -/
def dottedKey : Nat → Scan (List String × String)
  | 0 => failure
  | parts + 1 => do
    blanks
    let part ← keyPart
    blanks
    if (← peek?) = some '.' then
      char '.'
      let (path, key) ← dottedKey parts
      pure (part :: path, key)
    else pure ([], part)

/-! ## Values -/

/-- The characters of a value that is neither quoted nor bracketed. -/
def isBareChar (c : Char) : Bool :=
  c.isAlphanum || c == '+' || c == '-' || c == '_' || c == '.' || c == ':'

/-- Whether a time follows a date behind a space. -/
def timeFollows : List Char → Bool
  | ' ' :: a :: b :: ':' :: _ => a.isDigit && b.isDigit
  | _ => false

/-- A value that is neither quoted nor bracketed. -/
def bareValue : Scan Value := do
  let cs ← takeWhile isBareChar
  let isDate := match date? cs with
    | some (_, []) => true
    | _ => false
  -- a date and its time may be apart by a space
  if isDate && timeFollows (← left) then
    char ' '
    let time ← takeWhile isBareChar
    let v ← bare? (cs ++ ' ' :: time)
    pure v
  else
    let v ← bare? cs
    pure v

/-- The items of an array whose opening bracket has been taken, in at most so many rounds. -/
def items (item : Scan Value) : Nat → Scan (List Value)
  | 0 => failure
  | rounds + 1 => do
    anyGap
    if (← peek?) = some ']' then
      char ']'
      pure []
    else
      let v ← item
      anyGap
      if (← peek?) = some ',' then
        char ','
        let vs ← items item rounds
        pure (v :: vs)
      else
        char ']'
        pure [v]

/-- The entries of an inline table, the first of which is due, in at most so many rounds. -/
def inlineEntries (item : Scan Value) : Nat → Grown.Entries → Scan Grown.Entries
  | 0, _ => failure
  | rounds + 1, entries => do
    let (path, key) ← dottedKey maxParts
    char '='
    blanks
    let v ← item
    blanks
    let entries ← Grown.put key v path entries
    if (← peek?) = some ',' then
      char ','
      inlineEntries item rounds entries
    else
      char '\x7d'
      pure entries

/-- A string or a value that is neither quoted nor bracketed. -/
def plainValue : Scan Value := do
  let c ← peek?
  if c = some '\"' ∨ c = some '\'' then
    return .string (String.ofList (← lift string?))
  bareValue

/-- An array, whose opening bracket is next. -/
def arrayOf (item : Scan Value) : Scan Value := do
  char '['
  return .array (← items item ((← left).length + 1))

/-- An inline table, whose opening brace is next. -/
def inlineTableOf (item : Scan Value) : Scan Value := do
  char '\x7b'
  blanks
  if (← peek?) = some '\x7d' then
    char '\x7d'
    return .table []
  let entries ← inlineEntries item ((← left).length + 1) []
  return .table (Grown.finishEntries entries)

/-- A value whose arrays and inline tables are nested at most so deeply. -/
def value : Nat → Scan Value
  | 0 => plainValue
  | room + 1 => do
    let c ← peek?
    if c = some '[' then arrayOf (value room)
    else if c = some '\x7b' then inlineTableOf (value room)
    else plainValue

/-- How deeply arrays and inline tables may be nested. -/
def maxNested : Nat := 79

/-! ## Files -/

/-- A file while it is read: the root table, and the path of the table that is open. -/
structure File where
  root : Grown.Entries := []
  current : List String := []

/-- A header in brackets. -/
def header (file : File) : Scan File := do
  char '['
  let ofTables := (← peek?) = some '['
  if ofTables then char '['
  let (path, key) ← dottedKey maxParts
  char ']'
  if ofTables then char ']'
  lineEnd
  let openIt := if ofTables then Grown.openElement else Grown.openTable
  let root ← openIt key path file.root
  pure ⟨root, path ++ [key]⟩

/-- A key with its value. -/
def keyValue (file : File) : Scan File := do
  let (path, key) ← dottedKey maxParts
  char '='
  blanks
  let v ← value maxNested
  lineEnd
  let root ← Grown.modify (Grown.put key v path) file.current file.root
  pure { file with root := root }

/-- The lines of a file, of which there are at most so many. -/
def lines : Nat → File → Scan File
  | 0, file => pure file
  | rounds + 1, file => do
    blanks
    match ← peek? with
    | none => pure file
    | some '#' | some '\n' | some '\r' => do
      lineEnd
      lines rounds file
    | some '[' => do
      let file ← header file
      lines rounds file
    | some _ => do
      let file ← keyValue file
      lines rounds file

/-- A mark at the start of a text that only says how it is encoded. -/
def dropByteOrderMark : List Char → List Char
  | c :: rest => if c = '\ufeff' then rest else c :: rest
  | [] => []

/-- Reads a file as a table. -/
def read? (text : String) : Option (List (String × Value)) :=
  let cs := dropByteOrderMark text.toList
  match (lines (cs.length + 1) {}).run cs with
  | some (file, []) => some (Grown.finishEntries file.root)
  | _ => none

end MailFilter.Toml
