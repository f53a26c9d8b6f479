import MailFilter.Decimal.Layout
import MailFilter.Json.Value

/-!
# Compact JSON text

A value is written without any whitespace. Strings escape the quote, the backslash and the
characters below the space, the latter by a letter where there is one and by four small
hexadecimal digits otherwise; every other character stands for itself.
-/

namespace MailFilter.Json

/-- A hexadecimal digit, small letters from ten on. -/
def hexDigit (n : Nat) : Char :=
  Char.ofNat (if n < 10 then 48 + n else 87 + n)

/-- The characters that stand for `c` inside a string. -/
def escape (c : Char) : List Char :=
  if c = '\"' then ['\\', '\"']
  else if c = '\\' then ['\\', '\\']
  else if c = '\n' then ['\\', 'n']
  else if c = '\r' then ['\\', 'r']
  else if c = '\t' then ['\\', 't']
  else if c = '\x08' then ['\\', 'b']
  else if c = '\x0c' then ['\\', 'f']
  else if c < ' ' then ['\\', 'u', '0', '0', hexDigit (c.toNat / 16), hexDigit (c.toNat % 16)]
  else [c]

/-- A string between quotes. -/
def quoted (s : String) : String :=
  String.ofList ('\"' :: s.toList.flatMap escape ++ ['\"'])

/-- The numeral of a number. -/
def Number.compact : Number → String
  | .integer i => toString i.toInt
  | .unsigned u _ => toString u.toNat
  | .float x _ => Decimal.json x

mutual

/-- The compact text of a value. -/
def compact : Json → String
  | .null => "null"
  | .bool true => "true"
  | .bool false => "false"
  | .number n => n.compact
  | .string s => quoted s
  | .array [] => "[]"
  | .array (item :: items) => "[" ++ compact item ++ compactItems items ++ "]"
  | .object [] => "\x7b\x7d"
  | .object ((key, value) :: members) =>
    "\x7b" ++ quoted key ++ ":" ++ compact value ++ compactMembers members ++ "\x7d"

/-- The items after the first, each behind a comma. -/
def compactItems : List Json → String
  | [] => ""
  | item :: items => "," ++ compact item ++ compactItems items

/-- The members after the first, each behind a comma. -/
def compactMembers : List (String × Json) → String
  | [] => ""
  | (key, value) :: members => "," ++ quoted key ++ ":" ++ compact value ++ compactMembers members

end

end MailFilter.Json
