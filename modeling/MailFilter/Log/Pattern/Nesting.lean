import MailFilter.Log.Pattern.Set

/-!
# Whole patterns

A pattern is branches between bars, a branch is parts side by side, and a part is an atom, a set,
a group, or one of these with a mark of repetition. Flags may be changed inside a group, for the
rest of it or for a group of its own. What is read of a pattern is its height, which is limited.
-/

namespace MailFilter.Log.Pattern

open Scan

/-- The signs of all flags, and the sign in front of those that are switched off. -/
def flagSigns : List Char := "imsUuxR-".toList

/-- Whether a text changes flags: none of them twice, and something behind the dash. -/
def changesFlags (signs : List Char) : Bool :=
  signs.all flagSigns.contains && signs.Nodup && signs.getLast? != some '-'

/-- The flags after a change. -/
def Flags.after (flags : Flags) (signs : List Char) : Flags :=
  let on := signs.takeWhile (· != '-')
  let off := signs.dropWhile (· != '-')
  let changed := fun (was : Bool) sign => (was || on.contains sign) && !off.contains sign
  { anyCase := changed flags.anyCase 'i'
    ofChars := changed flags.ofChars 'u'
    spaced := changed flags.spaced 'x' }

/-- Whether a text may be the name of a group. -/
def isGroupName : List Char → Bool
  | [] => false
  | c :: cs =>
    (c == '_' || Text.isAlphabetic c) &&
      cs.all fun c => c == '_' || c == '.' || c == '[' || c == ']' || Text.isAlphanumeric c

/-- Reads the name of a group and the bracket behind it. No two groups have the same name. -/
def groupName : Scan Unit := do
  let cs ← left
  let name := cs.takeWhile (· != '>')
  guard (isGroupName name && !(← get).names.contains name)
  match cs.dropWhile (· != '>') with
  | [] => failure
  | _ :: rest => modify fun unread => ⟨rest, name :: unread.names⟩

/-- What an opening parenthesis opens: a group with its flags, or nothing but a change of the
flags from here on. -/
inductive Opening where
  | group (flags : Flags)
  | change (flags : Flags)
deriving DecidableEq, Repr

/-- Reads what belongs to an opening parenthesis. -/
def opening (flags : Flags) : Scan Opening := do
  space flags
  match ← left with
  | '?' :: 'P' :: '<' :: cs | '?' :: '<' :: cs =>
    goOn cs
    groupName
    pure (.group flags)
  | '?' :: cs =>
    let signs := cs.takeWhile fun c => c != ':' && c != ')'
    guard (changesFlags signs)
    match cs.drop signs.length with
    | [] => failure
    | c :: rest =>
      goOn rest
      if c = ':' then pure (.group (flags.after signs))
      else if signs.isEmpty then failure
      else pure (.change (flags.after signs))
  | _ => pure (.group flags)

/-- A part of a branch: its height, and whether it can be repeated. -/
structure Part where
  height : Nat
  repeatable : Bool := true
deriving DecidableEq, Repr

/-- Whether a character is a mark of repetition. -/
def isRepetition (c : Char) : Bool :=
  c == '?' || c == '*' || c == '+'

/-- Reads branches up to the end of the pattern or the end of the group they are in, in at most
so many rounds. `branches` are the heights of those that have been read, and `parts` is what has
been read of the last one, backwards. A question mark behind a mark of repetition belongs to it.
Counts in braces do not occur, because a brace ends the field of a rule. -/
def expression : Nat → Flags → List Nat → List Part → Scan Nat
  | 0, _, _, _ => failure
  | rounds + 1, flags, branches, parts => do
    space flags
    match ← left with
    | [] => pure (joined (joined (parts.map Part.height) :: branches))
    | c :: cs =>
      if c = ')' then pure (joined (joined (parts.map Part.height) :: branches))
      else if c = '|' then
        goOn cs
        expression rounds flags (joined (parts.map Part.height) :: branches) []
      else if c = '(' then
        goOn cs
        match ← opening flags with
        | .change flags => expression rounds flags branches (⟨0, false⟩ :: parts)
        | .group inner =>
          let height ← expression rounds inner [] []
          guard ((← next) = ')')
          expression rounds flags branches (⟨1 + height, true⟩ :: parts)
      else if isRepetition c then
        match parts with
        | ⟨height, true⟩ :: parts =>
          goOn (if cs.head? = some '?' then cs.drop 1 else cs)
          expression rounds flags branches (⟨1 + height, true⟩ :: parts)
        | _ => failure
      else if c = '\x7b' then failure
      else if c = '[' then
        goOn cs
        let height ← bracketed flags rounds
        expression rounds flags branches (⟨height, true⟩ :: parts)
      else
        atom flags
        expression rounds flags branches (⟨0, true⟩ :: parts)

/-- The greatest height of a pattern. -/
def maxHeight : Nat := 250

/-- Whether a text is a pattern. -/
def isPattern (cs : List Char) : Bool :=
  match (expression (cs.length + 1) {} [] []).run ⟨cs, []⟩ with
  | some (height, unread) => unread.left.isEmpty && height ≤ maxHeight
  | none => false

end MailFilter.Log.Pattern
