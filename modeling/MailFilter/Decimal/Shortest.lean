/-!
# The fewest digits that identify a binary number

A finite binary64 value is a fraction, and the reals that round to it form an interval around
it: from halfway to its lower neighbour to halfway to its upper neighbour, the ends included
exactly when the significand is even. A decimal **identifies** the value when it lies in that
interval, because reading it gives the value back.

`shortest` looks for an identifying decimal on coarser grids first: one digit, two digits, and
so on. On each grid only the two neighbours of the value are tried, since an interval around
the value that contains a point of the grid contains one of the two. Of two hits the nearer one
is taken; where both are equally near, `TieRule` decides. Everything is exact arithmetic on
natural numbers.
-/

namespace MailFilter.Decimal

/-- A finite positive value `num / den` with the interval of the reals that round to it: the
halfway points are `lower / (4 * den)` and `upper / (4 * den)`, and the value itself is
`4 * num / (4 * den)`. -/
structure Rounded where
  num : Nat
  den : Nat
  lower : Nat
  upper : Nat
  endsIncluded : Bool

/-- The value and the interval behind the bits of a positive finite binary64 number. The gap
below a power of two is half as wide as the gap above it. -/
def Rounded.ofBits (bits : UInt64) : Rounded :=
  let field := ((bits >>> 52) &&& 0x7FF).toNat
  let fraction := (bits &&& 0xFFFFFFFFFFFFF).toNat
  let significand := if field == 0 then fraction else 0x10000000000000 + fraction
  let exponent : Int := (max field 1 : Nat) - 1075
  let up := Nat.pow 2 exponent.toNat
  let narrow := fraction == 0 && field > 1
  { num := significand * up
    den := Nat.pow 2 (-exponent).toNat
    lower := (4 * significand - (if narrow then 1 else 2)) * up
    upper := (4 * significand + 2) * up
    endsIncluded := significand % 2 == 0 }

/-- A decimal `digits * 10 ^ exponent`. -/
structure Scientific where
  digits : Nat
  exponent : Int
deriving DecidableEq, Repr

/-- Compares the decimal with `num / den`. -/
def Scientific.compareTo (d : Scientific) (num den : Nat) : Ordering :=
  compare (d.digits * Nat.pow 10 d.exponent.toNat * den) (num * Nat.pow 10 (-d.exponent).toNat)

/-- Whether a decimal lies among the reals that round to the value. -/
def Rounded.identifiedBy (x : Rounded) (d : Scientific) : Bool :=
  let low := d.compareTo x.lower (4 * x.den)
  let high := d.compareTo x.upper (4 * x.den)
  (low == .gt || (x.endsIncluded && low == .eq)) &&
    (high == .lt || (x.endsIncluded && high == .eq))

/-- What to take of two identifying decimals that are equally near the value. -/
inductive TieRule where
  | toEven
  | up
deriving DecidableEq, Repr

/-- The number of decimal digits of a natural number; zero has one. -/
def width (n : Nat) : Nat :=
  (Nat.toDigits 10 n).length

/-- The least `k` with `num / den < 10 ^ k`, for a positive value. -/
def Rounded.scale (x : Rounded) : Int :=
  let whole := x.num / x.den
  if whole == 0 then 1 - (width (x.den / x.num) : Int) else width whole

/-- The largest decimal of the grid of step `10 ^ exponent` that is not above the value. -/
def Rounded.floorOn (x : Rounded) (exponent : Int) : Scientific :=
  ⟨x.num * Nat.pow 10 (-exponent).toNat / (x.den * Nat.pow 10 exponent.toNat), exponent⟩

/-- The nearest identifying decimal on the grid of step `10 ^ exponent`, if there is one. -/
def Rounded.hitOn? (x : Rounded) (tie : TieRule) (exponent : Int) : Option Scientific :=
  let below := x.floorOn exponent
  let above : Scientific := { below with digits := below.digits + 1 }
  match x.identifiedBy below, x.identifiedBy above with
  | true, false => some below
  | false, true => some above
  | false, false => none
  | true, true =>
    -- the value is compared with the middle of the two
    match Scientific.compareTo ⟨below.digits + above.digits, exponent⟩ (2 * x.num) x.den with
    | .gt => some below
    | .lt => some above
    | .eq =>
      match tie with
      | .up => some above
      | .toEven => some (if below.digits % 2 == 0 then below else above)

/-- The first hit when the grids are tried for one more digit each time; after `tries` grids the
decimal just below the value stands in. -/
def Rounded.search (x : Rounded) (tie : TieRule) : Nat → Int → Scientific
  | 0, exponent => x.floorOn exponent
  | tries + 1, exponent =>
    match x.hitOn? tie exponent with
    | some d => d
    | none => x.search tie tries (exponent - 1)

/-- Moves the zeros at the end of the digits into the exponent. -/
def Scientific.trim : Nat → Scientific → Scientific
  | 0, d => d
  | fuel + 1, d =>
    if d.digits % 10 == 0 && d.digits != 0 then
      Scientific.trim fuel ⟨d.digits / 10, d.exponent + 1⟩
    else d

/-- The shortest decimal that identifies a positive finite binary64 number, the nearest of
those. Seventeen digits identify any such number. -/
def shortest (tie : TieRule) (bits : UInt64) : Scientific :=
  let x := Rounded.ofBits bits
  (x.search tie 17 (x.scale - 1)).trim 20

end MailFilter.Decimal
