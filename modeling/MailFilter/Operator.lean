/-!
# Operators and the tokens that spell them

A filter is built from ten operators in three closed families. Every operator has one
**canonical symbol**, which is what renderers write, and a short table of **spellings**, which
is what readers accept; letter case never matters when a spelling is compared with a token.

Two facts about the table carry the rest of the library: the canonical symbol is itself a
spelling, and no token is a spelling of two operators (`Operator.eq_of_spells`), so looking a
token up is a function of the token alone and not of the order in which operators are tried.
-/

namespace MailFilter

/-- The three families of operators. -/
inductive Family where
  | relational
  | logical
  | functional
deriving DecidableEq, Repr, Inhabited

/-- The family's name in lower case. -/
def Family.name : Family → String
  | .relational => "relational"
  | .logical => "logical"
  | .functional => "functional"

/-- The operators a filter can apply. -/
inductive Operator where
  | eq
  | ne
  | gt
  | lt
  | le
  | ge
  | and
  | or
  | not
  | isIn
deriving DecidableEq, Repr, Inhabited

namespace Operator

/-- Every operator, in the order in which a token is compared with their spellings: the logical
ones first, then the relational ones, then the functional one. -/
def all : List Operator := [and, or, not, eq, ne, gt, lt, le, ge, isIn]

theorem mem_all (op : Operator) : op ∈ all := by cases op <;> decide

/-- The family an operator belongs to. -/
def family : Operator → Family
  | eq | ne | gt | lt | le | ge => .relational
  | and | or | not => .logical
  | isIn => .functional

/-- The canonical symbol. -/
def symbol : Operator → String
  | eq => "=="
  | ne => "!="
  | gt => ">"
  | lt => "<"
  | le => "<="
  | ge => ">="
  | and => "&&"
  | or => "||"
  | not => "!"
  | isIn => "IN"

/-- The accepted spellings, canonical symbol first. -/
def spellings : Operator → List String
  | eq => ["==", "=", "EQ"]
  | ne => ["!=", "<>", "NE", "NEQ"]
  | gt => [">", "GT"]
  | lt => ["<", "LT"]
  | le => ["<=", "LE", "LTE"]
  | ge => [">=", "GE", "GTE"]
  | and => ["&&", "AND"]
  | or => ["||", "OR"]
  | not => ["!", "NOT"]
  | isIn => ["IN"]

/-- The keyword of a connective, for dialects that have no symbolic connectives. -/
def keyword? : Operator → Option String
  | and => some "AND"
  | or => some "OR"
  | not => some "NOT"
  | _ => none

end Operator

/-! ## Letter case is ignored when tokens are compared -/

/-- The characters of a token with ASCII capitals made small; other characters are kept. -/
def foldCase (token : String) : List Char :=
  token.toList.map Char.toLower

namespace Operator

/-- Whether a token is one of the operator's spellings, up to letter case. -/
def spells (token : String) (op : Operator) : Bool :=
  op.spellings.any fun spelling => foldCase spelling == foldCase token

/-- The operator that a token spells, if any. -/
def ofToken? (token : String) : Option Operator :=
  all.find? (spells token)

/-- The operator of one family that a token spells, if any. -/
def ofTokenIn? (family : Family) (token : String) : Option Operator :=
  all.find? fun op => op.family == family && spells token op

/-! ## A token spells at most one operator -/

theorem spells_iff {token : String} {op : Operator} :
    spells token op = true ↔ foldCase token ∈ op.spellings.map foldCase := by
  simp only [spells, List.any_eq_true, beq_iff_eq, List.mem_map]

/-- The canonical symbol of an operator spells it. -/
theorem spells_symbol (op : Operator) : spells op.symbol op = true := by
  cases op <;> decide

/-- No token spells **two operators**: the folded spellings of different operators are apart. -/
theorem eq_of_spells {token : String} {a b : Operator}
    (ha : spells token a = true) (hb : spells token b = true) : a = b := by
  rw [spells_iff] at ha hb
  have apart : ∀ a b : Operator, ∀ w ∈ a.spellings.map foldCase,
      w ∈ b.spellings.map foldCase → a = b := by
    intro a b
    cases a <;> cases b <;> decide
  exact apart a b _ ha hb

/-- Looking a token up finds exactly the operator that it spells. -/
theorem ofToken?_eq_some_iff {token : String} {op : Operator} :
    ofToken? token = some op ↔ spells token op = true := by
  constructor
  · intro h
    exact List.find?_some h
  · intro h
    cases hf : ofToken? token with
    | none => exact absurd h (by simpa using List.find?_eq_none.mp hf op (mem_all op))
    | some found => rw [eq_of_spells (List.find?_some hf) h]

theorem ofToken?_symbol (op : Operator) : ofToken? op.symbol = some op :=
  ofToken?_eq_some_iff.mpr (spells_symbol op)

end Operator

/-! ## Looking a token up can fail in one way only -/

/-- A token that spells no operator of those that were asked for. -/
structure UnknownToken where
  token : String
deriving DecidableEq, Repr

/-- The text shown for a token that spells no operator. -/
def UnknownToken.message (e : UnknownToken) : String :=
  "No operator matches token '" ++ e.token ++ "'"

/-- The operator a token spells; with a family, among the operators of that family only. -/
def Operator.lookup (token : String) : Option Family → Except UnknownToken Operator
  | none => (ofToken? token).elim (.error ⟨token⟩) .ok
  | some family => (ofTokenIn? family token).elim (.error ⟨token⟩) .ok

end MailFilter
