import MailFilter.Decimal.Plain
import MailFilter.Log.Basic
import MailFilter.Log.Pattern.Nesting
import MailFilter.Text.Class

/-!
# Rules of the log

Rules decide which records are written. They are given as text, separated by commas: a level
alone is for every target, `target=level` is for the targets that start with the given text, and
a target alone is open to all levels. Behind the target a field may be named in brackets and
braces, `target[{field}]=level`; the rule is then for the records that carry it.

Of the rules that are for a record the most specific one decides: the one with the longest
target, of those one that names a field before one that does not, and of two that are equally
specific the later one. A record that no rule is for is not written.

In its brackets a rule may also name a part of the program's run, or ask for the value of its
field. The program marks no such parts and only they have values to ask for, so a rule of that
form opens nothing.
-/

namespace MailFilter.Log

/-- A rule: the start of the targets it is for, the field a record has to carry, the level it
opens them to, and whether it is confined to a part of the run. -/
structure Rule where
  target : List Char := []
  field : Option String := none
  level : Level := .trace
  confined : Bool := false
deriving DecidableEq, Repr

/-! ## Reading rules

The form of a rule is looked for in its text without the blanks around it, while its parts are
taken, by their places, from the text as it stands. Blanks in front of a rule therefore shift its
parts, and blanks behind it belong to what is last in it. -/

/-- A text whose form is looked at in the first characters and whose parts are taken from the
second ones. -/
abbrev Shifted := List (Char × Char)

/-- The part that is taken for a stretch of the form. -/
def partOf (cs : Shifted) : List Char :=
  cs.map Prod.snd

/-- What is in front of the first character of the form that passes a test, and what is from it
on. -/
def splitBefore (p : Char → Bool) (cs : Shifted) : Shifted × Shifted :=
  cs.span fun c => !p c.1

/-- Whether a rule may start with a character: a letter, a number, a sign that occurs in targets,
or an opening bracket. -/
def mayStart (c : Char) : Bool :=
  Text.isAlphanumeric c || c == '-' || c == ':' || c == '_' || c == '['

/-- A rule with the level behind an equals sign; open to all levels if there is nothing. -/
def Rule.withLevel? (rule : Rule) : List Char → Option Rule
  | [] => some rule
  | cs => (Level.ofText? cs).map fun level => { rule with level := level }

/-- A rule whose brackets are closed, with the level that may follow them. -/
def Rule.finished? (rule : Rule) (tail : List Char) : Shifted → Option Rule
  | [] => some rule
  | (c, _) :: cs => if c = '=' then rule.withLevel? (partOf cs ++ tail) else none

/-- Whether a field can be asked for a value. -/
def isValue (cs : List Char) : Bool :=
  (Decimal.float? cs).isSome || Pattern.isPattern cs

/-- A rule for a field, perhaps with an equals sign and a value behind its name. -/
def Rule.withField? (rule : Rule) (field : List Char) : Option Rule :=
  let name := String.ofList (field.takeWhile (· != '='))
  match field.dropWhile (· != '=') with
  | [] => some { rule with field := some name }
  | _ :: value =>
    if isValue (value.takeWhile (· != '=')) then
      some { rule with field := some name, confined := true }
    else none

/-- A rule with a field, behind the brace that opens it. -/
def Rule.ofField? (rule : Rule) (tail : List Char) (cs : Shifted) : Option Rule :=
  match splitBefore (· == '\x7d') cs with
  | ([], _) => none
  | (field, _ :: (']', _) :: cs) => do
    let rule ← rule.withField? (partOf field)
    rule.finished? tail cs
  | _ => none

/-- A rule with brackets, behind the opening one. -/
def Rule.ofBrackets? (rule : Rule) (tail : List Char) (cs : Shifted) : Option Rule :=
  match splitBefore (fun c => c == ']' || c == '\x7b') cs with
  | (_, []) => none
  | (name, (c, _) :: cs) =>
    if c = ']' then { rule with confined := true }.finished? tail cs
    else { rule with confined := !name.isEmpty }.ofField? tail cs

/-- The rule that a text stands for, if it is one. -/
def Rule.ofText? (text : List Char) : Option Rule :=
  let form := Text.trimmed text
  let tail := text.drop form.length
  if (form.head?.map mayStart).getD false then
    match splitBefore (fun c => c == '=' || c == '[') (form.zip text) with
    | (word, []) =>
      let word := partOf word ++ tail
      match Level.ofText? word with
      -- a level alone is a rule for every target
      | some level => some { level := level }
      | none => some { target := word }
    | (word, (c, _) :: cs) =>
      let rule : Rule := { target := partOf word }
      if c = '=' then rule.withLevel? (partOf cs ++ tail) else rule.ofBrackets? tail cs
  else none

/-- The texts between commas that are not empty. -/
def ruleTexts (text : String) : List (List Char) :=
  (text.toList.splitBy fun a b => a != ',' && b != ',').filter fun cs => cs != [',']

/-- The rules of a text, all of which have to be rules. -/
def rulesOf? (text : String) : Option (List Rule) :=
  (ruleTexts text).mapM Rule.ofText?

/-- The rules of a text, without what are no rules. -/
def rulesAmong (text : String) : List Rule :=
  (ruleTexts text).filterMap Rule.ofText?

/-! ## Which records are written -/

/-- Whether a rule is for a record. -/
def Rule.isFor (record : Record) (rule : Rule) : Bool :=
  !rule.confined && rule.target.isPrefixOf record.target.toList &&
    rule.field.all record.fields.contains

/-- Whether a field is less specific than another: none is less than any, and of two the one
that comes first. -/
def isLess : Option String → Option String → Bool
  | none, none => false
  | none, some _ => true
  | some _, none => false
  | some a, some b => a < b

/-- Of two rules for the same record the one that decides. -/
def Rule.decisive (first second : Rule) : Rule :=
  let n := first.target.length
  let m := second.target.length
  if m < n || (m == n && isLess second.field first.field) then first else second

/-- The rule that decides about a record. -/
def deciding? (rules : List Rule) (record : Record) : Option Rule :=
  (rules.filter (Rule.isFor record)).foldl
    (fun best? rule => some (best?.elim rule fun best => best.decisive rule)) none

/-- Whether a record is written. -/
def isWritten (rules : List Rule) (record : Record) : Bool :=
  match deciding? rules record with
  | some rule => record.level.detail ≤ rule.level.detail
  | none => false

/-! ## The rules of this program -/

/-- The variable of the environment that rules may be given in. -/
def rulesVariable : String := "RUST_LOG"

/-- The rules in force: those of the variable if it is set and in order, and otherwise warnings
from everywhere and the level of the settings for the program itself. -/
def rulesInForce (ofVariable : Option String) (level : String) : List Rule :=
  (ofVariable.bind rulesOf?).getD (rulesAmong ("warn,mailquery=" ++ level))

end MailFilter.Log
