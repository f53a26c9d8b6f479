import MailFilter.Log.Pattern.Atom

/-!
# Sets in patterns

A set is written in brackets: characters, ranges of them, named classes of ASCII and further sets
stand side by side, and such unions may be intersected with or subtracted from each other. What
is read of a set is its height, by which the nesting of patterns is limited: whatever holds
something else is one higher than the highest of what it holds.
-/

namespace MailFilter.Log.Pattern

open Scan

/-- The height of some things side by side. One alone is not held by anything. -/
def joined : List Nat → Nat
  | [] => 0
  | [h] => h
  | heights => 1 + heights.foldl max 0

/-- The height of a union in a set, `lhs` being that of what it is to be combined with. -/
def combined (lhs : Option Nat) (items : List Nat) : Nat :=
  match lhs with
  | none => joined items
  | some h => 1 + max h (joined items)

/-- Whether an atom may stand in a set. -/
def Atom.isAllowedInSet (flags : Flags) : Atom → Bool
  | char c _ => if flags.ofChars then !flags.anyCase else c < '\x80'
  | ofClass negated => !flags.ofChars && !negated
  | dot | edge | wordEdge => false

/-- Reads an atom of a set. -/
def setAtom (flags : Flags) : Scan Atom := do
  let c ← next
  let a ← if c = '\\' then escape flags else pure (.char c false)
  guard (a.isAllowedInSet flags)
  pure a

/-- The character behind a dash that decides whether the dash makes a range. Where blanks mean
nothing it is looked for behind them, and behind the sign of a comment but not the comment. -/
def afterDash? (flags : Flags) (cs : List Char) : Option Char :=
  if flags.spaced then
    match cs.dropWhile Text.isBlank with
    | '#' :: rest => (rest.dropWhile Text.isBlank).head?.or cs.head?
    | rest => rest.head?.or cs.head?
  else cs.head?

/-- Reads a character of a set, or a range of characters in rising order. -/
def setItem (flags : Flags) : Scan Unit := do
  let first ← setAtom flags
  space flags
  if let '-' :: cs := ← left then
    let after := afterDash? flags cs
    if after ≠ some ']' ∧ after ≠ some '-' then
      goOn cs
      space flags
      let second ← setAtom flags
      match first, second with
      | .char a _, .char b _ => guard (a ≤ b)
      | _, _ => failure

/-- The names of the classes of ASCII. -/
def classNames : List String :=
  ["alnum", "alpha", "ascii", "blank", "cntrl", "digit", "graph", "lower", "print", "punct",
   "space", "upper", "word", "xdigit"]

/-- The class of ASCII that a text starts with, behind a bracket: whether it is negated, and what
is behind it. -/
def namedClass? : List Char → Option (Bool × List Char)
  | ':' :: cs =>
    let negated := cs.head? == some '^'
    let cs := if negated then cs.drop 1 else cs
    match cs.dropWhile (· != ':') with
    | ':' :: ']' :: rest =>
      if classNames.contains (String.ofList (cs.takeWhile (· != ':'))) then some (negated, rest)
      else none
    | _ => none
  | _ => none

/-- Whether a class of ASCII may stand in a set. -/
def isNamedClassAllowed (flags : Flags) (negated : Bool) : Bool :=
  if flags.ofChars then !flags.anyCase else !negated

/-- Reads the sign that negates a set, if there is one. A negated set of bytes would be content
with a part of a character. -/
def negation (flags : Flags) : Scan Unit := do
  space flags
  if let '^' :: cs := ← left then
    guard flags.ofChars
    goOn cs

/-- Reads the rest of a set, in at most so many rounds: at its start a dash stands for itself, and
so does a bracket that would close it. `lhs` and `items` are the heights of what has been read,
those of the union that is being read last. -/
def setRest (flags : Flags) : Nat → Bool → Option Nat → List Nat → Scan Nat
  | 0, _, _, _ => failure
  | rounds + 1, atStart, lhs, items => do
    space flags
    match ← left with
    | [] => failure
    | c :: cs =>
      if atStart && (c == '-' || (c == ']' && items.isEmpty)) then
        goOn cs
        guard ((Atom.char c false).isAllowedInSet flags)
        setRest flags rounds (c == '-') lhs (0 :: items)
      else if c = ']' then
        goOn cs
        pure (combined lhs items)
      else if (c = '&' ∨ c = '-' ∨ c = '~') ∧ cs.head? = some c then
        -- what is read so far is combined with what comes
        goOn (cs.drop 1)
        setRest flags rounds false (some (combined lhs items)) []
      else if c = '[' then
        goOn cs
        if let some (negated, rest) := namedClass? cs then
          goOn rest
          guard (isNamedClassAllowed flags negated)
          setRest flags rounds false lhs (0 :: items)
        else
          negation flags
          let inner ← setRest flags rounds true none []
          setRest flags rounds false lhs ((1 + inner) :: items)
      else
        setItem flags
        setRest flags rounds false lhs (0 :: items)

/-- Reads a set behind the bracket that opens it, in at most so many rounds. -/
def bracketed (flags : Flags) (rounds : Nat) : Scan Nat := do
  negation flags
  let inner ← setRest flags rounds true none []
  pure (1 + inner)

end MailFilter.Log.Pattern
