import MailFilter.Decimal.Reading
import MailFilter.Text.Class

/-!
# The smallest parts of a pattern

A rule of the log may ask for the value of a field by a regular expression. No record is ever
held against one here, but a rule is only a rule if its pattern is well formed, and that is what
patterns are read for.

What a pattern may hold depends on the flags in force. It is about **characters**, or about
**bytes** where the flag `u` is switched off. There are no tables of characters to go by, so a
pattern about characters has no classes of them by name, no edges of words, and with the flag `i`
no characters at all. A pattern about bytes has all of these, for ASCII; but it may not have
anything that would be content with a part of a character.
-/

namespace MailFilter.Log.Pattern

/-- The flags that decide what a pattern may hold: whether letter case does not matter, whether
it is about characters, and whether blanks and comments in it are passed over. -/
structure Flags where
  anyCase : Bool := false
  ofChars : Bool := true
  spaced : Bool := false
deriving DecidableEq, Repr

/-! ## Reading -/

/-- What has not been read of a pattern, and the names that its groups have so far. -/
structure Unread where
  left : List Char
  names : List (List Char) := []

/-- Reads something from the front of what is left, or fails. -/
abbrev Scan := StateT Unread Option

namespace Scan

/-- The characters that are left. -/
def left : Scan (List Char) := do
  return (← get).left

/-- Goes on with what is left then. -/
def goOn (cs : List Char) : Scan Unit :=
  modify fun unread => { unread with left := cs }

/-- Reads the next character, which there must be. -/
def next : Scan Char := do
  match ← left with
  | [] => failure
  | c :: cs =>
    goOn cs
    pure c

end Scan

open Scan

/-- What is behind blanks and comments, which go from a number sign to the end of their line. -/
def behindSpace (inComment : Bool) : List Char → List Char
  | [] => []
  | c :: cs =>
    if inComment then behindSpace (c != '\n') cs
    else if Text.isBlank c then behindSpace false cs
    else if c = '#' then behindSpace true cs
    else c :: cs

/-- Passes over blanks and comments if they mean nothing. -/
def space (flags : Flags) : Scan Unit := do
  if flags.spaced then goOn (behindSpace false (← left))

/-! ## Characters and classes -/

/-- A part that stands for one character, or for a position between two. A character may be
written as a byte. -/
inductive Atom where
  | char (c : Char) (asByte : Bool)
  | dot
  | ofClass (negated : Bool)
  | edge
  | wordEdge
deriving DecidableEq, Repr

/-- Whether an atom may stand by itself. -/
def Atom.isAllowed (flags : Flags) : Atom → Bool
  | char c asByte => if flags.ofChars then !flags.anyCase else !asByte || c < '\x80'
  | dot => flags.ofChars
  | ofClass negated => !flags.ofChars && !negated
  | edge => true
  | wordEdge => !flags.ofChars

/-- A character of ASCII that is neither a letter nor a digit, and not an angle bracket. Behind a
backslash it stands for itself. -/
def isSign (c : Char) : Bool :=
  c < '\x80' && !c.isAlphanum && c != '<' && c != '>'

/-- The control character that a letter behind a backslash stands for. -/
def controlOf? (letter : Char) : Option Char :=
  if letter = 'a' then some '\x07'
  else if letter = 'f' then some '\x0c'
  else if letter = 't' then some '\t'
  else if letter = 'n' then some '\n'
  else if letter = 'r' then some '\r'
  else if letter = 'v' then some '\x0b'
  else none

/-- Reads so many hexadecimal digits behind a number. -/
def hexadecimal (flags : Flags) : Nat → Nat → Scan Nat
  | 0, n => pure n
  | digits + 1, n => do
    space flags
    let d ← Decimal.digitIn? 16 (← next)
    hexadecimal flags digits (16 * n + d)

/-- Reads a character that is written by its code point in so many digits. -/
def charOfCode (flags : Flags) (digits : Nat) : Scan Char := do
  let n ← hexadecimal flags digits 0
  if n < 0xD800 ∨ (0xDFFF < n ∧ n < 0x110000) then pure (Char.ofNat n) else failure

/-- Reads what stands behind a backslash. -/
def escape (flags : Flags) : Scan Atom := do
  let c ← next
  if isSign c then pure (.char c false)
  else if let some control := controlOf? c then pure (.char control false)
  else if c = 'x' then return .char (← charOfCode flags 2) true
  else if c = 'u' then return .char (← charOfCode flags 4) false
  else if c = 'U' then return .char (← charOfCode flags 8) false
  else if c = 'd' ∨ c = 's' ∨ c = 'w' then pure (.ofClass false)
  else if c = 'D' ∨ c = 'S' ∨ c = 'W' then pure (.ofClass true)
  else if c = 'A' ∨ c = 'z' then pure .edge
  else if c = 'b' ∨ c = 'B' ∨ c = '<' ∨ c = '>' then pure .wordEdge
  else failure

/-- Reads an atom outside sets. -/
def atom (flags : Flags) : Scan Unit := do
  let c ← next
  let a ←
    if c = '\\' then escape flags
    else if c = '.' then pure .dot
    else if c = '^' ∨ c = '$' then pure .edge
    else pure (.char c false)
  guard (a.isAllowed flags)

end MailFilter.Log.Pattern
