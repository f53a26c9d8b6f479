import MailFilter.Decimal.Shortest

/-!
# How a float is written

A float has two written forms in this library, both from the fewest digits that identify it.
The **shown** form is positional whatever the magnitude and writes a whole number without a
point; the **JSON** form keeps a `.0` on whole numbers and goes over to an exponent, with its
sign and without padding, below `1e-5` and from `1e16` on. The shown form has words for the
values that are not numbers; the JSON form is only ever asked for finite ones.
-/

namespace MailFilter.Decimal

/-- So many zeros. -/
def zeros (n : Nat) : String :=
  String.ofList (List.replicate n '0')

/-- The digits of a decimal with the point after the first `point` of them; with `point` at or
below zero the point stands in front, followed by that many zeros. `whole` ends the text of a
number that has no fraction. -/
def positional (d : Scientific) (point : Int) (whole : String) : String :=
  let text := toString d.digits
  if d.exponent ≥ 0 then text ++ zeros d.exponent.toNat ++ whole
  else if point ≤ 0 then "0." ++ zeros (-point).toNat ++ text
  else
    let cut := point.toNat
    String.ofList (text.toList.take cut) ++ "." ++ String.ofList (text.toList.drop cut)

/-- One digit, the other digits behind a point, and the signed exponent. -/
def exponential (d : Scientific) (point : Int) : String :=
  let power := point - 1
  let sign := if power < 0 then "-" else "+"
  let mantissa :=
    match (toString d.digits).toList with
    | [] => ""
    | [c] => String.singleton c
    | c :: rest => String.singleton c ++ "." ++ String.ofList rest
  mantissa ++ "e" ++ sign ++ toString power.natAbs

/-- Where the point stands relative to the digits of a decimal. -/
def Scientific.point (d : Scientific) : Int :=
  width d.digits + d.exponent

/-- The sign bit, and the bits of the magnitude. -/
def signAndMagnitude (x : Float) : String × UInt64 :=
  (if x.toBits >>> 63 == 1 then "-" else "", x.toBits &&& 0x7FFFFFFFFFFFFFFF)

/-- The shown form: positional, whole numbers without a point. Equally near digits go up. -/
def shown (x : Float) : String :=
  if x.isNaN then "NaN"
  else
    let (sign, magnitude) := signAndMagnitude x
    if x.isInf then sign ++ "inf"
    else if magnitude == 0 then sign ++ "0"
    else
      let d := shortest .up magnitude
      sign ++ positional d d.point ""

/-- The JSON form of a finite float: positional from `1e-5` up to `1e16`, whole numbers with
`.0`, exponents signed. Equally near digits go to the even one. -/
def json (x : Float) : String :=
  let (sign, magnitude) := signAndMagnitude x
  if magnitude == 0 then sign ++ "0.0"
  else
    let d := shortest .toEven magnitude
    if -5 < d.point && d.point ≤ 16 then sign ++ positional d d.point ".0"
    else sign ++ exponential d d.point

end MailFilter.Decimal
