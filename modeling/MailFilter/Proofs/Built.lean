import MailFilter.Expression

/-!
# Expressions built with the constructors

Every operator has a constructor with as many operands as are meant for it: two for comparisons,
`and` and `or`, one for `not`, and any number of candidates behind the subject of `isIn`. `Built`
expressions are those to which nothing but the constructors was applied, from leaves of some kind
and with subjects of some kind. Nothing else tells how many operands an operator has, so only of
such expressions can be said that a text without brackets stands for no more than one.

A text does not tell either whether a leaf is a literal or a name. `shown` keeps of a leaf no more
than its text.
-/

namespace MailFilter

mutual

/-- Built with the constructors from leaves, with subjects for `isIn` and at least one candidate. -/
inductive Expression.Built (leaf subject : Operand → Prop) : Expression → Prop
  | eq {a b : Operand} : a.Built leaf subject → b.Built leaf subject →
      Expression.Built leaf subject (.eq a b)
  | ne {a b : Operand} : a.Built leaf subject → b.Built leaf subject →
      Expression.Built leaf subject (.ne a b)
  | gt {a b : Operand} : a.Built leaf subject → b.Built leaf subject →
      Expression.Built leaf subject (.gt a b)
  | lt {a b : Operand} : a.Built leaf subject → b.Built leaf subject →
      Expression.Built leaf subject (.lt a b)
  | le {a b : Operand} : a.Built leaf subject → b.Built leaf subject →
      Expression.Built leaf subject (.le a b)
  | ge {a b : Operand} : a.Built leaf subject → b.Built leaf subject →
      Expression.Built leaf subject (.ge a b)
  | and {a b : Operand} : a.Built leaf subject → b.Built leaf subject →
      Expression.Built leaf subject (.and a b)
  | or {a b : Operand} : a.Built leaf subject → b.Built leaf subject →
      Expression.Built leaf subject (.or a b)
  | not {a : Operand} : a.Built leaf subject → Expression.Built leaf subject (.not a)
  | isIn {s : Operand} {candidates : List Operand} : subject s → candidates ≠ [] →
      (∀ c ∈ candidates, c.Built leaf subject) →
      Expression.Built leaf subject (.isIn s candidates)

/-- A leaf or a built expression. -/
inductive Operand.Built (leaf subject : Operand → Prop) : Operand → Prop
  | leaf {o : Operand} : leaf o → Operand.Built leaf subject o
  | nested {e : Expression} : e.Built leaf subject → Operand.Built leaf subject (.nested e)

end

/-- What can stand at a node that was built: the operator tells how many operands there are. -/
inductive Arranged (leaf subject : Operand → Prop) : Operator → Operand → List Operand → Prop
  | binary {op : Operator} {a b : Operand} : op ≠ .not → op ≠ .isIn → a.Built leaf subject →
      b.Built leaf subject → Arranged leaf subject op a [b]
  | unary {a : Operand} : a.Built leaf subject → Arranged leaf subject .not a []
  | membership {s : Operand} {candidates : List Operand} : subject s → candidates ≠ [] →
      (∀ c ∈ candidates, c.Built leaf subject) → Arranged leaf subject .isIn s candidates

theorem Expression.Built.arranged {leaf subject : Operand → Prop} {op : Operator} {first : Operand}
    {rest : List Operand} (h : (Expression.node op first rest).Built leaf subject) :
    Arranged leaf subject op first rest := by
  cases h with
  | not ha => exact .unary ha
  | isIn hs hne hcs => exact .membership hs hne hcs
  | _ ha hb => exact .binary (by decide) (by decide) ha hb

/-! ## Leaves as they are shown -/

mutual

/-- An expression with the text in the place of each leaf. -/
def Expression.shown : Expression → Expression
  | .node op first rest => .node op first.shown (Operand.shownList rest)

/-- The text of a leaf as a literal. -/
def Operand.shown : Operand → Operand
  | .value scalar => .value (.string scalar.text)
  | .field name => .value (.string name)
  | .identifier name => .value (.string name)
  | .nested e => .nested e.shown

/-- Operands with the text in the place of each leaf. -/
def Operand.shownList : List Operand → List Operand
  | [] => []
  | o :: os => o.shown :: Operand.shownList os

end

end MailFilter
