import MailFilter.Operator

/-!
# What the key of a payload object can be

An object of a payload has one key. A key that spells an operator is an **operator key**; any
other key is meant as the name of a field. Two tests say how plausible that reading is: a name
with a character that only symbolic operators use is probably a mistyped operator, and a field
name proper is a letter or underscore followed by letters, digits, underscores, dots and dashes.

A name is a **field key** when an object keyed by it is certain to be read as a field: it is a
field name and spells no operator.
-/

namespace MailFilter

/-- The characters that occur in symbolic operators and nowhere else. -/
def operatorSymbols : List Char := ['=', '!', '<', '>', '&', '|']

/-- Whether a token contains a character of a symbolic operator. -/
def looksLikeOperator (token : String) : Bool :=
  token.toList.any fun c => operatorSymbols.contains c

/-- A character that a field name may start with; ASCII letters and the underscore only. -/
def isFieldStart (c : Char) : Bool :=
  c.isAlpha || c == '_'

/-- A character that a field name may go on with; ASCII letters and digits, and `_`, `.`, `-`. -/
def isFieldPart (c : Char) : Bool :=
  c.isAlphanum || c == '_' || c == '.' || c == '-'

/-- Whether a token has the form of a field name. -/
def isFieldName (token : String) : Bool :=
  match token.toList with
  | [] => false
  | c :: rest => isFieldStart c && rest.all isFieldPart

/-- Whether an object keyed by the name is read as a field and never as an operator. -/
def isFieldKey (name : String) : Bool :=
  isFieldName name && (Operator.ofToken? name).isNone

theorem looksLikeOperator_eq_true_iff {token : String} :
    looksLikeOperator token = true ↔ ∃ c ∈ token.toList, c ∈ operatorSymbols := by
  rw [looksLikeOperator, List.any_eq_true]
  simp only [List.contains_iff_mem]

theorem isFieldKey_eq_true_iff {name : String} :
    isFieldKey name = true ↔ isFieldName name = true ∧ Operator.ofToken? name = none := by
  rw [isFieldKey, Bool.and_eq_true, Option.isNone_iff_eq_none]

/-- A name has at least one character, and all of them may stand in a name. -/
theorem isFieldPart_of_isFieldName {token : String} (h : isFieldName token = true) :
    token.toList ≠ [] ∧ ∀ c ∈ token.toList, isFieldPart c = true := by
  have hstart : ∀ c : Char, isFieldStart c = true → isFieldPart c = true := by
    intro c hc
    simp only [isFieldStart, isFieldPart, Char.isAlphanum, Bool.or_eq_true] at hc ⊢
    rcases hc with h | h
    · exact .inl (.inl (.inl (.inl h)))
    · exact .inl (.inl (.inr h))
  unfold isFieldName at h
  cases ht : token.toList with
  | nil =>
    rw [ht] at h
    cases h
  | cons c rest =>
    rw [ht] at h
    simp only [Bool.and_eq_true, List.all_eq_true] at h
    refine ⟨List.cons_ne_nil c rest, List.forall_mem_cons.mpr ⟨hstart c h.1, h.2⟩⟩

/-- A field name contains no character of a symbolic operator. -/
theorem looksLikeOperator_of_isFieldName {token : String} (h : isFieldName token = true) :
    looksLikeOperator token = false := by
  have hpart : ∀ c : Char, isFieldPart c = true → operatorSymbols.contains c = false := by
    intro c hc
    cases hs : operatorSymbols.contains c with
    | false => rfl
    | true =>
      simp only [operatorSymbols, List.contains_eq_mem, List.mem_cons, List.not_mem_nil,
        or_false, decide_eq_true_eq] at hs
      rcases hs with h | h | h | h | h | h <;> subst h <;> exact absurd hc (by decide)
  rw [looksLikeOperator, List.any_eq_false]
  intro c hc
  rw [hpart c ((isFieldPart_of_isFieldName h).2 c hc)]
  exact Bool.false_ne_true

end MailFilter
