import MailFilter.Rendering.Basic

/-!
# The search dialect

Mail servers spell a few conditions in forms of their own, and the search dialect writes those
three in **shorthand**:

* `>= UID n` is the range of message numbers `(UID n:*)` that is open above,
* `IN UID a b` is the range or set `(UID a:b)`,
* `== FLAG true` is the flag test `(FLAG)`; the boolean itself is not written.

Every other expression is written as in Polish notation, except that connectives are spelled as
keywords. Operands that a shorthand leaves out are not looked at, so they take no part in the
limit on depth either.
-/

namespace MailFilter

/-- The conditions with a spelling of their own. -/
inductive Shorthand where
  | openRange
  | range
  | flag
deriving DecidableEq, Repr

/-- The field that holds message numbers. -/
def uidField : String := "UID"

/-- Whether the operands behind the first one start with a boolean literal. -/
def isFlagTest (rest : List Operand) : Bool :=
  ((rest.head?.bind Operand.asValue?).bind Scalar.asBool?).isSome

/-- The shorthand that an operator with these operands has, if any. -/
def shorthand? (op : Operator) (first : Operand) (rest : List Operand) : Option Shorthand :=
  if op = .ge ∧ first.asField? = some uidField then some .openRange
  else if op = .isIn ∧ first.asField? = some uidField then some .range
  else if op = .eq ∧ isFlagTest rest = true then some .flag
  else none

section

variable {op : Operator} {first : Operand} {rest : List Operand}

theorem isFlagTest_iff :
    isFlagTest rest = true ↔ ∃ b others, rest = .value (.bool b) :: others := by
  rcases rest with _ | ⟨_ | _ | _ | _, others⟩
  case cons.value scalar => cases scalar <;> simp [isFlagTest, Operand.asValue?, Scalar.asBool?]
  all_goals simp [isFlagTest, Operand.asValue?]

theorem shorthand?_eq_openRange_iff :
    shorthand? op first rest = some .openRange ↔ op = .ge ∧ first = .field uidField := by
  rw [← Operand.asField?_eq_some_iff, shorthand?]
  grind

theorem shorthand?_eq_range_iff :
    shorthand? op first rest = some .range ↔ op = .isIn ∧ first = .field uidField := by
  rw [← Operand.asField?_eq_some_iff, shorthand?]
  grind

theorem shorthand?_eq_flag_iff : shorthand? op first rest = some .flag ↔
    op = .eq ∧ ∃ b others, rest = .value (.bool b) :: others := by
  rw [← isFlagTest_iff, shorthand?]
  grind

end

/-- The word for an operator: a keyword for connectives, the symbol for all others. -/
def Operator.word (op : Operator) : String :=
  op.keyword?.getD op.symbol

theorem Operator.ofToken?_word (op : Operator) : ofToken? op.word = some op := by
  cases op <;> exact ofToken?_eq_some_iff.mpr (by decide)

mutual

/-- The text, in the search dialect, of an expression that stands at the given level. -/
def Expression.searchAt (limit level : Nat) : Expression → Except RenderError String
  | .node op first rest =>
    withinDepth limit level <|
      match shorthand? op first rest with
      | some .openRange => do
        let bounds ← Operand.searchListAt limit level rest
        pure ("(" ++ uidField ++ " " ++ ":".intercalate bounds ++ ":*)")
      | some .range => do
        let bounds ← Operand.searchListAt limit level rest
        pure ("(" ++ uidField ++ " " ++ ":".intercalate bounds ++ ")")
      | some .flag => do
        -- the boolean, and whatever may follow it, is left out
        let name ← first.searchAt limit level
        pure ("(" ++ name ++ ")")
      | none => do
        let head ← first.searchAt limit level
        let tail ← Operand.searchListAt limit level rest
        pure (" ".intercalate (op.word :: head :: tail))

/-- The text of an operand of an expression at the given level. -/
def Operand.searchAt (limit level : Nat) : Operand → Except RenderError String
  | .value scalar => .ok scalar.text
  | .field name => .ok name
  | .identifier name => .ok name
  | .nested e => e.searchAt limit (level + 1)

/-- The texts of operands. -/
def Operand.searchListAt (limit level : Nat) : List Operand → Except RenderError (List String)
  | [] => .ok []
  | o :: os => do
    let head ← o.searchAt limit level
    let tail ← Operand.searchListAt limit level os
    pure (head :: tail)

end

/-- The text of an expression in the search dialect, within a limit on its depth. -/
def Expression.search (limit : Nat) (e : Expression) : Except RenderError String :=
  e.searchAt limit 1

/-- The text of an operand that stands alone. -/
def Operand.search (limit : Nat) (o : Operand) : Except RenderError String :=
  o.searchAt limit 0

end MailFilter
