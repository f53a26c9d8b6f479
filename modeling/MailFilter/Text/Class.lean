import MailFilter.Text.Table

/-!
# Classes of characters

Letters and numbers, and blanks, of all scripts.
-/

namespace MailFilter.Text

/-- Whether a character is alphabetic. -/
def isAlphabetic (c : Char) : Bool :=
  if c < '\x80' then c.isAlpha else alphabeticRanges.contains c

/-- Whether a character is alphabetic or numeric. -/
def isAlphanumeric (c : Char) : Bool :=
  isAlphabetic c || numericRanges.contains c

/-- The blanks of all scripts, with the characters that end lines. -/
def blankRanges : Ranges :=
  [(0x9, 0xD), (0x20, 0x20), (0x85, 0x85), (0xA0, 0xA0), (0x1680, 0x1680), (0x2000, 0x200A),
   (0x2028, 0x2029), (0x202F, 0x202F), (0x205F, 0x205F), (0x3000, 0x3000)]

/-- Whether a character is blank. -/
def isBlank (c : Char) : Bool :=
  blankRanges.contains c

/-- A text without the blanks around it. -/
def trimmed (cs : List Char) : List Char :=
  ((cs.dropWhile isBlank).reverse.dropWhile isBlank).reverse

end MailFilter.Text
