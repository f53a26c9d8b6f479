import MailFilter.Decimal.Reading
import MailFilter.Toml.Value

/-!
# Numbers, dates and times in settings files

Every value that is not quoted or bracketed is a run of letters, digits and a few signs, so it can
be judged as a whole: it is one of the two booleans, an integer, a float, a date, a time, or
nothing. Underscores may stand between two digits. Integers have to fit in 64 signed bits, floats
may not be too large, and dates and times have to exist.
-/

namespace MailFilter.Toml

/-- The digits that follow a digit, underscores between digits left out, and what is behind. -/
def moreDigits (isDigit : Char → Bool) : List Char → List Char × List Char
  | '_' :: c :: rest =>
    if isDigit c then
      let (ds, after) := moreDigits isDigit rest
      (c :: ds, after)
    else ([], '_' :: c :: rest)
  | c :: rest =>
    if isDigit c then
      let (ds, after) := moreDigits isDigit rest
      (c :: ds, after)
    else ([], c :: rest)
  | [] => ([], [])

/-- One or more digits. -/
def digitRun? (isDigit : Char → Bool) : List Char → Option (List Char × List Char)
  | [] => none
  | c :: rest =>
    if isDigit c then
      let (ds, after) := moreDigits isDigit rest
      some (c :: ds, after)
    else none

/-- Decimal digits without a zero in front. -/
def wholeRun? (cs : List Char) : Option (List Char × List Char) := do
  let (ds, after) ← digitRun? Char.isDigit cs
  if ds.head? = some '0' ∧ ds.length ≠ 1 then none else pure (ds, after)

/-- An integer in a base, all of the text being its digits. -/
def inBase? (base : Nat) (cs : List Char) : Option Int := do
  let (ds, after) ← digitRun? (fun c => (Decimal.digitIn? base c).isSome) cs
  let n := ds.foldl (fun n c => n * base + (Decimal.digitIn? base c).getD 0) 0
  if after.isEmpty ∧ n < Decimal.signedEnd then pure n else none

/-- An integer: decimal with an optional sign, or in base sixteen, eight or two. -/
def integer? : List Char → Option Int
  | '0' :: 'x' :: rest => inBase? 16 rest
  | '0' :: 'o' :: rest => inBase? 8 rest
  | '0' :: 'b' :: rest => inBase? 2 rest
  | cs => do
    let (negative, cs) := Decimal.signOf cs
    let (ds, after) ← wholeRun? cs
    let n := Decimal.signed negative (Decimal.ofDigits ds)
    if after.isEmpty && Decimal.fitsSigned n then pure n else none

/-- The exponent of a float, all of the text being it. -/
def exponent? : List Char → Option Int
  | c :: rest => do
    if c ≠ 'e' ∧ c ≠ 'E' then none
    let (negative, cs) := Decimal.signOf rest
    let (ds, after) ← digitRun? Char.isDigit cs
    if after.isEmpty then pure (Decimal.signed negative (Decimal.ofDigits ds)) else none
  | [] => none

/-- A float: decimal digits with a fraction, an exponent or both, or one of the special words.
Infinity has to be asked for by name. -/
def float? (cs : List Char) : Option Float := do
  let (negative, cs) := Decimal.signOf cs
  let signed := fun x : Float => if negative then -x else x
  if cs = ['i', 'n', 'f'] then return signed Decimal.infinity
  if cs = ['n', 'a', 'n'] then return Decimal.notANumber
  let (whole, after) ← wholeRun? cs
  let (fraction, after) ←
    match after with
    | '.' :: rest => digitRun? Char.isDigit rest
    | _ => some ([], after)
  if fraction.isEmpty ∧ after.isEmpty then none
  let exponent ← if after.isEmpty then some 0 else exponent? after
  let x := Decimal.nearest (Decimal.ofDigits (whole ++ fraction)) (exponent - fraction.length)
  if x.isInf ∧ !negative then none else return signed x

/-! ## Dates and times -/

/-- A number written with exactly so many digits. -/
def fixed? (count : Nat) (cs : List Char) : Option (Nat × List Char) :=
  let ds := cs.take count
  if ds.length = count ∧ ds.all Char.isDigit then some (Decimal.ofDigits ds, cs.drop count)
  else none

/-- Passes over one given character. -/
def exactly? (c : Char) : List Char → Option (List Char)
  | d :: rest => if c = d then some rest else none
  | [] => none

/-- A number with zeros in front, in at least so many digits. -/
def padded (count n : Nat) : String :=
  let text := toString n
  String.ofList (List.replicate (count - text.length) '0') ++ text

/-- The number of days of a month. -/
def daysIn (year month : Nat) : Nat :=
  if month = 2 then
    if year % 4 = 0 ∧ (year % 100 ≠ 0 ∨ year % 400 = 0) then 29 else 28
  else if month = 4 ∨ month = 6 ∨ month = 9 ∨ month = 11 then 30
  else 31

/-- A calendar date at the front of a text, as canonical text, and what is behind it. -/
def date? (cs : List Char) : Option (String × List Char) := do
  let (year, cs) ← fixed? 4 cs
  let cs ← exactly? '-' cs
  let (month, cs) ← fixed? 2 cs
  let cs ← exactly? '-' cs
  let (day, cs) ← fixed? 2 cs
  if 1 ≤ month ∧ month ≤ 12 ∧ 1 ≤ day ∧ day ≤ daysIn year month then
    pure (padded 4 year ++ "-" ++ padded 2 month ++ "-" ++ padded 2 day, cs)
  else none

/-- The fraction of a second in nine digits, without the zeros at its end. -/
def fractionText (ds : List Char) : String :=
  let nine := (ds ++ List.replicate 9 '0').take 9
  let kept := (nine.reverse.dropWhile (· == '0')).reverse
  if kept.isEmpty then "" else "." ++ String.ofList kept

/-- A time of day at the front of a text, as canonical text, and what is behind it. -/
def time? (lastHour : Nat) (cs : List Char) : Option (String × List Char) := do
  let (hour, cs) ← fixed? 2 cs
  let cs ← exactly? ':' cs
  let (minute, cs) ← fixed? 2 cs
  let cs ← exactly? ':' cs
  let (second, cs) ← fixed? 2 cs
  if lastHour < hour ∨ 59 < minute ∨ 60 < second then none
  let text := padded 2 hour ++ ":" ++ padded 2 minute ++ ":" ++ padded 2 second
  match cs with
  | '.' :: rest =>
    let ds := rest.takeWhile Char.isDigit
    if ds.isEmpty then none else pure (text ++ fractionText ds, rest.drop ds.length)
  | _ => pure (text, cs)

/-- The offset of a time from universal time, all of the text being it, as canonical text. -/
def offset? : List Char → Option String
  | [] => some ""
  | ['Z'] | ['z'] => some "Z"
  | sign :: cs => do
    if sign ≠ '+' ∧ sign ≠ '-' then none
    let (hour, cs) ← fixed? 2 cs
    let cs ← exactly? ':' cs
    let (minute, cs) ← fixed? 2 cs
    if !cs.isEmpty ∨ 23 < hour ∨ 59 < minute then none
    let shown := if hour = 0 ∧ minute = 0 then "+" else String.singleton sign
    pure (shown ++ padded 2 hour ++ ":" ++ padded 2 minute)

/-- A time with an offset behind a date, all of the text being it, as canonical text. -/
def timeBehindDate? (date : String) (cs : List Char) : Option String := do
  let (time, cs) ← time? 23 cs
  let offset ← offset? cs
  pure (date ++ "T" ++ time ++ offset)

/-- A date, a date with a time, or a time alone, as canonical text. -/
def datetime? (cs : List Char) : Option String :=
  match date? cs with
  | some (date, []) => some date
  | some (date, c :: rest) =>
    if c = 'T' ∨ c = 't' ∨ c = ' ' then timeBehindDate? date rest else none
  | none =>
    match time? 23 cs with
    | some (time, []) => some time
    | _ => none

/-- The value that a run of letters, digits and signs stands for. -/
def bare? (cs : List Char) : Option Value :=
  if cs = ['t', 'r', 'u', 'e'] then some (.boolean true)
  else if cs = ['f', 'a', 'l', 's', 'e'] then some (.boolean false)
  else
    ((datetime? cs).map Value.datetime).or
      (((float? cs).map Value.float).or ((integer? cs).map Value.integer))

end MailFilter.Toml
