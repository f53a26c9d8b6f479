import MailFilter.Text.Table

/-!
# Small letters

A text in small letters has every letter exchanged for its small form. That is one character for
another, with two exceptions: the capital I with a dot becomes an i and a combining dot, and the
capital sigma has a form of its own at the end of a word. A sigma ends a word if a letter comes
before it and none after it, where marks and signs inside words are looked through.

On ASCII texts this is the change of letters that core has (`lowerFrom_of_ascii`).
-/

namespace MailFilter.Text

/-- The small letter of a capital letter of a run. -/
def CapitalRun.small? (run : CapitalRun) (c : Char) : Option Char :=
  let n := c.toNat
  if run.first ≤ n ∧ n ≤ run.last ∧ (n - run.first) % run.step = 0 then
    some (Char.ofNat (run.small + (n - run.first)))
  else none

/-- The small form of a character, wherever it stands. -/
def smallForm (c : Char) : List Char :=
  if c < '\x80' then [c.toLower]
  else if c = '\u0130' then ['i', '\u0307']
  else [(capitalRuns.findSome? fun run => run.small? c).getD c]

/-- Whether a letter comes first, characters inside words looked through. -/
def startsWithLetter (cs : List Char) : Bool :=
  match cs.dropWhile ignorableRanges.contains with
  | c :: _ => casedRanges.contains c
  | [] => false

/-- The small sigma between what is before it, read backwards, and what is after it. -/
def sigmaBetween (before after : List Char) : Char :=
  if startsWithLetter before && !startsWithLetter after then '\u03c2' else '\u03c3'

/-- What is behind some characters, read backwards, in small letters. -/
def lowerFrom (before : List Char) : List Char → List Char
  | [] => []
  | c :: cs =>
    if c = '\u03a3' then sigmaBetween before cs :: lowerFrom (c :: before) cs
    else smallForm c ++ lowerFrom (c :: before) cs

/-- A text in small letters. -/
def lower (s : String) : String :=
  String.ofList (lowerFrom [] s.toList)

theorem lowerFrom_of_ascii (before : List Char) {cs : List Char} (h : ∀ c ∈ cs, c < '\x80') :
    lowerFrom before cs = cs.map Char.toLower := by
  induction cs generalizing before with
  | nil => rfl
  | cons c cs ih =>
    have hc : c < '\x80' := h c (List.mem_cons_self ..)
    have hs : c ≠ '\u03a3' := by
      intro heq
      rw [heq] at hc
      exact absurd hc (by decide)
    have hcs : ∀ d ∈ cs, d < '\x80' := fun d hd => h d (List.mem_cons_of_mem _ hd)
    simp [lowerFrom, hs, smallForm, hc, ih (c :: before) hcs]

end MailFilter.Text
