/-!
# Reading decimals

The parts of numerals that every notation has in common: digits, signs and plain natural
numbers. Integers that come from a text are kept in 64 bits, signed where that is enough and
unsigned above; `signedEnd` and `unsignedEnd` are the first numbers that no longer fit. `nearest`
is the binary64 number nearest to `digits * 10 ^ exponent`, infinite where the magnitude is too
large for any finite one. The exponent is compared with the number of digits first, so that a text
with an absurd exponent costs no more than its length.
-/

namespace MailFilter.Decimal

/-- The value of a decimal digit. -/
def digitValue (c : Char) : Nat :=
  c.toNat - '0'.toNat

/-- The number a text of decimal digits stands for. -/
def ofDigits (digits : List Char) : Nat :=
  digits.foldl (fun value c => 10 * value + digitValue c) 0

/-- The value of a digit in a base up to sixteen. -/
def digitIn? (base : Nat) (c : Char) : Option Nat :=
  let value? :=
    if c.isDigit then some (digitValue c)
    else if 'a' ≤ c ∧ c ≤ 'f' then some (c.toNat - 'a'.toNat + 10)
    else if 'A' ≤ c ∧ c ≤ 'F' then some (c.toNat - 'A'.toNat + 10)
    else none
  value?.filter (· < base)

/-- Whether there is a minus in front, and what is behind the sign. -/
def signOf : List Char → Bool × List Char
  | '-' :: cs => (true, cs)
  | '+' :: cs => (false, cs)
  | cs => (false, cs)

/-- A number with its sign. -/
def signed (negative : Bool) (n : Nat) : Int :=
  if negative then -n else n

/-- The number of a text that is decimal digits and nothing else, at least one. -/
def whole? (cs : List Char) : Option Nat :=
  if cs.isEmpty || !cs.all Char.isDigit then none else some (ofDigits cs)

/-- The number of a text that is decimal digits, perhaps behind a plus. -/
def natural? : List Char → Option Nat
  | '+' :: cs => whole? cs
  | cs => whole? cs

/-- The first natural number above the signed 64-bit range. -/
abbrev signedEnd : Nat := 9223372036854775808

/-- The first natural number above the unsigned 64-bit range. -/
abbrev unsignedEnd : Nat := 18446744073709551616

/-- Whether an integer is in the signed 64-bit range. -/
def fitsSigned (i : Int) : Bool :=
  -(signedEnd : Int) ≤ i && i < (signedEnd : Int)

/-- The positive float above all finite ones. -/
def infinity : Float :=
  Float.ofBits 0x7FF0000000000000

/-- The float that is no number. -/
def notANumber : Float :=
  Float.ofBits 0x7FF8000000000000

/-- The float nearest to `digits * 10 ^ exponent`. Nothing at or above `10 ^ 310` is finite, and
everything below `10 ^ -330` rounds to zero. -/
def nearest (digits : Nat) (exponent : Int) : Float :=
  if digits == 0 then 0
  else
    let magnitude := (Nat.toDigits 10 digits).length + exponent
    if magnitude > 311 then infinity
    else if magnitude < -330 then 0
    else Float.ofScientific digits (exponent < 0) exponent.natAbs

end MailFilter.Decimal
