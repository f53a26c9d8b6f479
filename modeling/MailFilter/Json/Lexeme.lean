import MailFilter.Decimal.Scaling
import MailFilter.Json.Fault
import MailFilter.Json.Value

/-!
# The lexemes of a JSON text

A JSON text is cut into brackets, separators, words, numerals and strings before any of them is
put to use. Cutting needs no context, so `lexemes` is a function of the text alone; a lexeme that
is malformed carries its fault instead of a value and ends the list, and whoever reads the list
decides whether that fault is ever reached.

Every lexeme keeps the text from its first character on, from which the place of a fault is
computed if one is reported there.
-/

namespace MailFilter.Json

/-- The four characters that may stand between lexemes. -/
def isBlank (c : Char) : Bool :=
  c == ' ' || c == '\t' || c == '\n' || c == '\r'

/-- A fault just behind the first byte of what is left. -/
def Reason.behindFirst (reason : Reason) (cs : List Char) : Fault :=
  ⟨reason, byteCount cs - 1⟩

/-! ## Numerals -/

/-- A numeral as written: its sign, its digits before and after the point, and its exponent. -/
structure Numeral where
  negative : Bool
  whole : List Char
  fraction : Option (List Char)
  exponent : Option (Bool × List Char)

/-- The digits at the front of a text. -/
def digitsOf (cs : List Char) : List Char :=
  cs.takeWhile Char.isDigit

/-- What is behind the digits at the front of a text. -/
def afterDigits (cs : List Char) : List Char :=
  cs.dropWhile Char.isDigit

/-- The digits before the point. A zero stands alone. -/
def wholePart : List Char → Except Fault (List Char × List Char)
  | [] => .error ⟨.endInValue, 0⟩
  | c :: rest =>
    if c = '0' then
      if (digitsOf rest).isEmpty then .ok (['0'], rest)
      else .error (Reason.invalidNumber.behindFirst rest)
    else if c.isDigit then .ok (c :: digitsOf rest, afterDigits rest)
    else .error (Reason.invalidNumber.behindFirst (c :: rest))

/-- The digits behind a point, if there is a point; at least one. -/
def fractionPart : List Char → Except Fault (Option (List Char) × List Char)
  | '.' :: [] => .error ⟨.endInValue, 0⟩
  | '.' :: c :: rest =>
    if c.isDigit then .ok (some (c :: digitsOf rest), afterDigits rest)
    else .error (Reason.invalidNumber.behindFirst (c :: rest))
  | cs => .ok (none, cs)

/-- The digits of an exponent, at least one. -/
def exponentDigits (negative : Bool) :
    List Char → Except Fault (Option (Bool × List Char) × List Char)
  | [] => .error ⟨.endInValue, 0⟩
  | c :: rest =>
    if c.isDigit then .ok (some (negative, c :: digitsOf rest), afterDigits rest)
    else .error (Reason.invalidNumber.behindFirst (c :: rest))

/-- The sign and the digits of an exponent, if there is one. -/
def exponentPart : List Char → Except Fault (Option (Bool × List Char) × List Char)
  | [] => .ok (none, [])
  | c :: rest =>
    if c = 'e' ∨ c = 'E' then
      match rest with
      | '+' :: rest' => exponentDigits false rest'
      | '-' :: rest' => exponentDigits true rest'
      | _ => exponentDigits false rest
    else .ok (none, c :: rest)

/-- The numeral at the front of a text without its sign, and what is behind it. -/
def unsignedNumeral (negative : Bool) (cs : List Char) : Except Fault (Numeral × List Char) := do
  let (whole, cs) ← wholePart cs
  let (fraction, cs) ← fractionPart cs
  let (exponent, cs) ← exponentPart cs
  pure (⟨negative, whole, fraction, exponent⟩, cs)

/-- The numeral at the front of a text and what is behind it. -/
def numeral : List Char → Except Fault (Numeral × List Char)
  | '-' :: cs => unsignedNumeral true cs
  | cs => unsignedNumeral false cs

/-- The digits of an exponent that follow the first one at which it leaves the 32-bit range. -/
def excessDigits (value : Nat) : List Char → Option (List Char)
  | [] => none
  | c :: rest =>
    let value := 10 * value + Decimal.digitValue c
    if value > 2147483647 then some rest else excessDigits value rest

/-- The number of a float, or the fault of a magnitude that is too large. -/
def finiteNumber (negative : Bool) (left : Nat) (x : Float) : Except Fault Number :=
  match Number.ofFloat? (if negative then -x else x) with
  | some n => .ok n
  | none => .error ⟨.numberOutOfRange, left⟩

/-- The number a numeral denotes, `after` being the text behind it. Without point and exponent
it is an integer where the 64-bit ranges hold it; minus zero is a float. Everything else is a
float, read within 64 bits. -/
def Numeral.value (n : Numeral) (after : List Char) : Except Fault Number :=
  let (digits, dropped) := Decimal.significand n.whole (n.fraction.getD [])
  match n.fraction, n.exponent with
  | none, none =>
    let magnitude := Decimal.ofDigits n.whole
    if n.negative && 0 < magnitude && magnitude ≤ Decimal.signedEnd then
      .ok (.integer (Int64.ofInt (-magnitude)))
    else if !n.negative && magnitude < Decimal.unsignedEnd then
      .ok (Number.ofUInt64 magnitude.toUInt64)
    else finiteNumber n.negative (byteCount after) (Decimal.scaled digits dropped)
  | _, exponent =>
    let (negative, power) := exponent.getD (false, [])
    match excessDigits 0 power with
    | some rest =>
      -- such a power makes everything but zero either vanish or overflow
      if negative || digits == 0 then finiteNumber n.negative 0 0
      else .error ⟨.numberOutOfRange, byteCount after + rest.length⟩
    | none =>
      let power := dropped + Decimal.signed negative (Decimal.ofDigits power)
      finiteNumber n.negative (byteCount after) (Decimal.scaled digits power)

/-! ## Strings -/

/-- A part of a string between its quotes: a character that stands for itself, a character that
is written as an escape, or a 16-bit unit, with the text behind it. -/
inductive Piece where
  | plain (c : Char)
  | escaped (c : Char)
  | unit (value : Nat) (after : List Char)

/-- How the parts of a string end: with the closing quote, behind which the text goes on, or in
one of the ways in which a string can be malformed. -/
inductive Close where
  | quote (after : List Char)
  | endOfText
  | control (left : Nat)
  | unknownEscape (left : Nat)
  | notHexadecimal (left : Nat)

/-- The unit written by four hexadecimal digits. -/
def unitOf? (a b c d : Char) : Option Nat := do
  let a ← Decimal.digitIn? 16 a
  let b ← Decimal.digitIn? 16 b
  let c ← Decimal.digitIn? 16 c
  let d ← Decimal.digitIn? 16 d
  pure (((a * 16 + b) * 16 + c) * 16 + d)

/-- The character that a letter behind a backslash stands for. -/
def escapedBy? (letter : Char) : Option Char :=
  if letter = '\"' then some '\"'
  else if letter = '\\' then some '\\'
  else if letter = '/' then some '/'
  else if letter = 'b' then some '\x08'
  else if letter = 'f' then some '\x0c'
  else if letter = 'n' then some '\n'
  else if letter = 'r' then some '\r'
  else if letter = 't' then some '\t'
  else none

/-- How a string ends whose unit is not written by four hexadecimal digits: four bytes are read
before they are looked at. -/
def closeInUnit (rest : List Char) : Close :=
  if byteCount rest < 4 then .endOfText else .notHexadecimal (byteCount rest - 4)

/-- The parts of the string whose opening quote has been read, and how it ends. -/
def pieces : List Char → List Piece × Close
  | [] => ([], .endOfText)
  | '\"' :: rest => ([], .quote rest)
  | '\\' :: 'u' :: a :: b :: c :: d :: rest =>
    match unitOf? a b c d with
    | some value =>
      let (parts, close) := pieces rest
      (.unit value rest :: parts, close)
    | none => ([], closeInUnit (a :: b :: c :: d :: rest))
  | '\\' :: 'u' :: rest => ([], closeInUnit rest)
  | '\\' :: letter :: rest =>
    match escapedBy? letter with
    | some c =>
      let (parts, close) := pieces rest
      (.escaped c :: parts, close)
    | none => ([], .unknownEscape (byteCount (letter :: rest) - 1))
  | ['\\'] => ([], .endOfText)
  | c :: rest =>
    if c < ' ' then ([], .control (byteCount (c :: rest) - 1))
    else
      let (parts, close) := pieces rest
      (.plain c :: parts, close)

/-- The fault of a string that is not closed by its quote. -/
def Close.fault? : Close → Option Fault
  | quote _ => none
  | endOfText => some ⟨.endInString, 0⟩
  | control left => some ⟨.controlCharacter, left⟩
  | unknownEscape left => some ⟨.invalidEscape, left⟩
  | notHexadecimal left => some ⟨.invalidEscape, left⟩

/-- The fault of a string that ends where the second half of a surrogate pair is due, `after`
being the text behind the first half. -/
def Close.faultInPair (after : List Char) : Close → Fault
  | quote _ => Reason.endOfSurrogatePair.behindFirst after
  | endOfText => ⟨.endInString, 0⟩
  | control left => ⟨.endOfSurrogatePair, left⟩
  | unknownEscape left => ⟨.endOfSurrogatePair, left⟩
  | notHexadecimal left => ⟨.invalidEscape, left⟩

/-- The first half of a surrogate pair. -/
def isLeading (unit : Nat) : Bool := 0xD800 ≤ unit && unit ≤ 0xDBFF

/-- The second half of a surrogate pair. -/
def isTrailing (unit : Nat) : Bool := 0xDC00 ≤ unit && unit ≤ 0xDFFF

/-- The character of a surrogate pair. -/
def pairOf (leading trailing : Nat) : Char :=
  Char.ofNat (0x10000 + (leading - 0xD800) * 0x400 + (trailing - 0xDC00))

/-- The characters that the parts of a string stand for. A unit of the surrogate range counts
only as half of a pair, and the two halves have to be adjacent. -/
def joinPieces (close : Close) : List Piece → Except Fault (List Char)
  | [] => close.fault?.elim (.ok []) .error
  | .plain c :: rest => (joinPieces close rest).map (c :: ·)
  | .escaped c :: rest => (joinPieces close rest).map (c :: ·)
  | .unit value after :: rest =>
    if isTrailing value then .error ⟨.loneSurrogate, byteCount after⟩
    else if isLeading value then
      match rest with
      | .unit second after' :: rest' =>
        if isTrailing second then (joinPieces close rest').map (pairOf value second :: ·)
        else .error ⟨.loneSurrogate, byteCount after'⟩
      -- one byte more is read when it is a backslash
      | .plain _ :: _ => .error ⟨.endOfSurrogatePair, byteCount after - 1⟩
      | .escaped _ :: _ => .error ⟨.endOfSurrogatePair, byteCount after - 2⟩
      | [] => .error (close.faultInPair after)
    else (joinPieces close rest).map (Char.ofNat value :: ·)

/-! ## Lexemes -/

/-- What a lexeme is. -/
inductive Lexeme.Kind where
  | beginList
  | endList
  | beginObject
  | endObject
  | comma
  | colon
  | word (value : Except Fault Json)
  | number (value : Except Fault Number)
  | string (parts : List Piece) (close : Close)
  | stray

/-- A lexeme, with the text from its first character on. -/
structure Lexeme where
  kind : Lexeme.Kind
  source : List Char

/-- The fault of finding a lexeme where something else is due. -/
def Lexeme.refuse (l : Lexeme) (reason : Reason) : Fault :=
  reason.behindFirst l.source

/-- The text that a string lexeme stands for. -/
def stringOf (parts : List Piece) (close : Close) : Except Fault String :=
  (joinPieces close parts).map String.ofList

/-- Brackets and separators. -/
def punctuation? (c : Char) : Option Lexeme.Kind :=
  if c = '[' then some .beginList
  else if c = ']' then some .endList
  else if c = '\x7b' then some .beginObject
  else if c = '\x7d' then some .endObject
  else if c = ',' then some .comma
  else if c = ':' then some .colon
  else none

/-- The letters behind the first letter of a word, and its value. -/
def word? (c : Char) : Option (List Char × Json) :=
  if c = 'n' then some (['u', 'l', 'l'], .null)
  else if c = 't' then some (['r', 'u', 'e'], .bool true)
  else if c = 'f' then some (['a', 'l', 's', 'e'], .bool false)
  else none

/-- Reads the given letters; what is behind them. -/
def spell : List Char → List Char → Except Fault (List Char)
  | [], cs => .ok cs
  | _ :: _, [] => .error ⟨.endInValue, 0⟩
  | letter :: letters, c :: rest =>
    if letter = c then spell letters rest else .error (Reason.expectedWord.behindFirst (c :: rest))

/-! ## Each scanner leaves less than it was given -/

theorem afterDigits_length_le (cs : List Char) : (afterDigits cs).length ≤ cs.length :=
  (List.dropWhile_sublist _).length_le

theorem wholePart_length {cs rest digits : List Char} (h : wholePart cs = .ok (digits, rest)) :
    rest.length < cs.length := by
  unfold wholePart at h
  split at h
  · exact absurd h (by simp)
  · rename_i c tail
    have := afterDigits_length_le tail
    split at h
    · split at h
      · simp only [Except.ok.injEq, Prod.mk.injEq] at h
        rw [← h.2]
        simp
      · exact absurd h (by simp)
    split at h
    · simp only [Except.ok.injEq, Prod.mk.injEq] at h
      rw [← h.2]
      simp only [List.length_cons]
      omega
    · exact absurd h (by simp)

theorem fractionPart_length {cs rest : List Char} {fraction : Option (List Char)}
    (h : fractionPart cs = .ok (fraction, rest)) : rest.length ≤ cs.length := by
  unfold fractionPart at h
  split at h
  · exact absurd h (by simp)
  · rename_i c tail
    have := afterDigits_length_le tail
    split at h
    · simp only [Except.ok.injEq, Prod.mk.injEq] at h
      rw [← h.2]
      simp only [List.length_cons]
      omega
    · exact absurd h (by simp)
  · simp only [Except.ok.injEq, Prod.mk.injEq] at h
    exact Nat.le_of_eq (congrArg List.length h.2.symm)

theorem exponentDigits_length {negative : Bool} {cs rest : List Char}
    {exponent : Option (Bool × List Char)}
    (h : exponentDigits negative cs = .ok (exponent, rest)) : rest.length ≤ cs.length := by
  unfold exponentDigits at h
  split at h
  · exact absurd h (by simp)
  · rename_i c tail
    have := afterDigits_length_le tail
    split at h
    · simp only [Except.ok.injEq, Prod.mk.injEq] at h
      rw [← h.2]
      simp only [List.length_cons]
      omega
    · exact absurd h (by simp)

theorem exponentPart_length {cs rest : List Char} {exponent : Option (Bool × List Char)}
    (h : exponentPart cs = .ok (exponent, rest)) : rest.length ≤ cs.length := by
  unfold exponentPart at h
  split at h
  · simp only [Except.ok.injEq, Prod.mk.injEq] at h
    exact Nat.le_of_eq (congrArg List.length h.2.symm)
  · split at h
    · split at h
      all_goals
        have := exponentDigits_length h
        simp only [List.length_cons] at *
        omega
    · simp only [Except.ok.injEq, Prod.mk.injEq] at h
      exact Nat.le_of_eq (congrArg List.length h.2.symm)

theorem unsignedNumeral_length {negative : Bool} {cs rest : List Char} {n : Numeral}
    (h : unsignedNumeral negative cs = .ok (n, rest)) : rest.length < cs.length := by
  unfold unsignedNumeral at h
  cases hw : wholePart cs with
  | error f => rw [hw] at h; exact absurd h (by simp [bind, Except.bind])
  | ok w =>
    obtain ⟨whole, cs1⟩ := w
    rw [hw] at h
    cases hf : fractionPart cs1 with
    | error f => simp [bind, Except.bind, hf] at h
    | ok p =>
      obtain ⟨fraction, cs2⟩ := p
      cases he : exponentPart cs2 with
      | error f => simp [bind, Except.bind, hf, he] at h
      | ok q =>
        obtain ⟨exponent, cs3⟩ := q
        simp [bind, Except.bind, hf, he, pure, Except.pure] at h
        have h1 := wholePart_length hw
        have h2 := fractionPart_length hf
        have h3 := exponentPart_length he
        rw [← h.2]
        omega

theorem numeral_length {cs rest : List Char} {n : Numeral} (h : numeral cs = .ok (n, rest)) :
    rest.length < cs.length := by
  unfold numeral at h
  split at h
  · have := unsignedNumeral_length h
    simp only [List.length_cons]
    omega
  · exact unsignedNumeral_length h

theorem pieces_length {cs rest : List Char} (h : (pieces cs).2 = .quote rest) :
    rest.length < cs.length := by
  fun_induction pieces cs
  all_goals simp_all
  all_goals first
    | (unfold closeInUnit at h; split at h <;> simp at h)
    | omega

theorem spell_length {letters cs rest : List Char} (h : spell letters cs = .ok rest) :
    rest.length ≤ cs.length := by
  fun_induction spell letters cs with
  | case1 cs => simp_all
  | case2 => simp at h
  | case3 letters c tail ih => simp only [List.length_cons]; have := ih h; omega
  | case4 => simp at h

/-! ## The text as a list of lexemes -/

/-- Cuts a text into its lexemes. A malformed lexeme is the last one. -/
def lexemes (cs : List Char) : List Lexeme :=
  match cs with
  | [] => []
  | c :: rest =>
    if isBlank c then lexemes rest
    else
      match punctuation? c with
      | some kind => ⟨kind, c :: rest⟩ :: lexemes rest
      | none =>
        if c = '\"' then
          match _hp : pieces rest with
          | (parts, .quote after) => ⟨.string parts (.quote after), c :: rest⟩ :: lexemes after
          | (parts, close) => [⟨.string parts close, c :: rest⟩]
        else
          match word? c with
          | some (letters, value) =>
            match _hs : spell letters rest with
            | .ok after => ⟨.word (.ok value), c :: rest⟩ :: lexemes after
            | .error fault => [⟨.word (.error fault), c :: rest⟩]
          | none =>
            if c = '-' ∨ c.isDigit then
              match _hn : numeral (c :: rest) with
              | .ok (n, after) => ⟨.number (n.value after), c :: rest⟩ :: lexemes after
              | .error fault => [⟨.number (.error fault), c :: rest⟩]
            else [⟨.stray, c :: rest⟩]
termination_by cs.length
decreasing_by
  all_goals simp only [List.length_cons]
  · omega
  · omega
  · have := @pieces_length rest after (by rw [_hp])
    omega
  · have := spell_length _hs
    omega
  · have := numeral_length _hn
    simp only [List.length_cons] at this
    omega

end MailFilter.Json
