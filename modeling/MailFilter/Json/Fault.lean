/-!
# Why and where a JSON text is refused

A fault says why a text is refused and how many bytes of the text lie **behind the place** it
reports. A reader that walks down the text always knows what is left of it, so this is the
number at hand; the line and the column follow from it once the whole text is known. Lines are
counted from one, columns are the bytes read on the line so far.
-/

namespace MailFilter.Json

/-- The reasons for refusing a JSON text. -/
inductive Reason where
  | endInValue
  | endInList
  | endInObject
  | endInString
  | expectedValue
  | expectedWord
  | invalidNumber
  | numberOutOfRange
  | expectedListSeparator
  | expectedObjectSeparator
  | expectedColon
  | keyNotAString
  | trailingComma
  | trailingCharacters
  | invalidEscape
  | loneSurrogate
  | endOfSurrogatePair
  | controlCharacter
  | tooDeep
deriving DecidableEq, Repr

/-- The wording of a reason. -/
def Reason.text : Reason → String
  | endInValue => "EOF while parsing a value"
  | endInList => "EOF while parsing a list"
  | endInObject => "EOF while parsing an object"
  | endInString => "EOF while parsing a string"
  | expectedValue => "expected value"
  | expectedWord => "expected ident"
  | invalidNumber => "invalid number"
  | numberOutOfRange => "number out of range"
  | expectedListSeparator => "expected `,` or `]`"
  | expectedObjectSeparator => "expected `,` or `\x7d`"
  | expectedColon => "expected `:`"
  | keyNotAString => "key must be a string"
  | trailingComma => "trailing comma"
  | trailingCharacters => "trailing characters"
  | invalidEscape => "invalid escape"
  | loneSurrogate => "lone leading surrogate in hex escape"
  | endOfSurrogatePair => "unexpected end of hex escape"
  | controlCharacter => "control character (\\u0000-\\u001F) found while parsing a string"
  | tooDeep => "recursion limit exceeded"

/-- A refusal: its reason, and the number of bytes behind the place reported. -/
structure Fault where
  reason : Reason
  left : Nat
deriving DecidableEq, Repr

/-- The number of bytes that encode the characters. -/
def byteCount (cs : List Char) : Nat :=
  cs.foldl (fun n c => n + c.utf8Size) 0

/-- The line and the column after so many bytes of a text, starting from a given line and column. -/
def place (line column : Nat) : Nat → List Char → Nat × Nat
  | _, [] => (line, column)
  | read, c :: rest =>
    if read = 0 then (line, column)
    else if c = '\n' then place (line + 1) 0 (read - 1) rest
    else place line (column + min read c.utf8Size) (read - c.utf8Size) rest

/-- The wording of a fault found in a text. -/
def Fault.message (text : String) (fault : Fault) : String :=
  let (line, column) := place 1 0 (text.utf8ByteSize - fault.left) text.toList
  fault.reason.text ++ " at line " ++ toString line ++ " column " ++ toString column

end MailFilter.Json
