import MailFilter.Decimal.Reading

/-!
# Numbers in plain text

A text is a number here if all of it is one: an integer in decimal digits, or a float in the
usual form, which may leave out the digits on one side of its point and may be one of the words
for what is not finite. Both may have a sign.
-/

namespace MailFilter.Decimal

/-- A signed 64-bit integer in decimal digits. -/
def integer? (text : List Char) : Option Int := do
  let (negative, cs) := signOf text
  let i := signed negative (← whole? cs)
  if fitsSigned i then some i else none

/-- The exponent of a float: nothing, or `e` with a whole number behind it. -/
def exponent? : List Char → Option Int
  | [] => some 0
  | c :: rest =>
    if c.toLower = 'e' then
      let (negative, cs) := signOf rest
      (whole? cs).map (signed negative)
    else none

/-- The magnitude of a float: digits with at most one point among or beside them, then perhaps an
exponent. -/
def magnitude? (cs : List Char) : Option Float := do
  let whole := cs.takeWhile Char.isDigit
  let after := cs.dropWhile Char.isDigit
  let (fraction, after) :=
    match after with
    | '.' :: rest => (rest.takeWhile Char.isDigit, rest.dropWhile Char.isDigit)
    | _ => ([], after)
  if whole.isEmpty && fraction.isEmpty then none
  let exponent ← exponent? after
  pure (nearest (ofDigits (whole ++ fraction)) (exponent - fraction.length))

/-- A float in decimal digits, or one of the words for those that are not finite. -/
def float? (text : List Char) : Option Float := do
  let (negative, cs) := signOf text
  let word := String.ofList (cs.map Char.toLower)
  let x ←
    if word = "inf" ∨ word = "infinity" then some infinity
    else if word = "nan" then some notANumber
    else magnitude? cs
  pure (if negative then -x else x)

end MailFilter.Decimal
