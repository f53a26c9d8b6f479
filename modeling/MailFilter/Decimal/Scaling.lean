import MailFilter.Decimal.Reading

/-!
# Reading decimals within 64 bits

A long decimal can be read without big numbers: as many of its digits as fit in 64 bits make up
a natural number, every digit left out in front of the point is one power of ten, and the number
is scaled by the powers of ten at the end. Each of these steps takes the nearest float, so what
is read may be a neighbour of the float nearest to the decimal. Numbers in JSON texts are read in
this way, and a text that has been written with the fewest digits may come back changed in its
last place.
-/

namespace MailFilter.Decimal

/-- A number with as many of the digits appended as fit in 64 bits, and the digits left out. -/
def appendFitting (n : Nat) : List Char → Nat × List Char
  | [] => (n, [])
  | c :: cs =>
    let longer := 10 * n + digitValue c
    if longer < unsignedEnd then appendFitting longer cs else (n, c :: cs)

/-- The digits before and after a point as a number of 64 bits and a power of ten. When digits
before the point are left out, those after it may still fit, and then they are appended. -/
def significand (whole fraction : List Char) : Nat × Int :=
  let (n, dropped) := appendFitting 0 whole
  let (n, unread) := appendFitting n fraction
  (n, (dropped.length : Int) - (fraction.length - unread.length : Nat))

/-- The greatest power of ten that is a float. -/
def maxPower : Nat := 308

/-- A float divided by a power of ten, in steps that the range of floats allows. -/
def dividedByPower (x : Float) (power : Nat) : Float :=
  if power ≤ maxPower then x / nearest 1 power
  else if x == 0 then x
  else dividedByPower (x / nearest 1 maxPower) (power - maxPower)
termination_by power
decreasing_by
  simp only [maxPower] at *
  omega

/-- A number multiplied by a power of ten, infinite if it is too large. -/
def scaled (n : Nat) (exponent : Int) : Float :=
  if exponent < 0 then dividedByPower (nearest n 0) exponent.natAbs
  else if n == 0 then 0
  else if exponent ≤ maxPower then nearest n 0 * nearest 1 exponent
  else infinity

end MailFilter.Decimal
