import MailFilter.Proofs.Reading

/-!
# What a failed reading consists of

A reading fails at the first thing wrong, and the reason is passed up to the root unchanged. For
each form of a payload part there is one statement here that says where the reason comes from:
from a check of the part itself, in front of which it has passed the others, or from a part below
it. They are the counterparts of the statements about readings that succeed.

Each reason belongs to one check. The check of keys is the only one that knows the fallback, and
**under the permissive fallback no key is refused** (`not_concernsKey_of_permissive`).
-/

namespace MailFilter

open Json

/-! ## The checks -/

theorem enterContainer_eq_error {nesting : Nat} {error : PayloadError}
    (h : (enterContainer nesting).outcome = .error error) :
    maxNesting < nesting + 1 ∧ error = .nestingExceeded maxNesting := by
  unfold enterContainer at h
  split at h
  · rename_i hlt
    exact ⟨hlt, (Except.error.inj h).symm⟩
  · cases h

theorem applyOperator_eq_error {key : String} {op : Operator} {os : List Operand}
    {error : PayloadError} (h : (applyOperator key op os).outcome = .error error) :
    os = [] ∧ error = .noOperands key := by
  cases os with
  | nil => exact ⟨rfl, (Except.error.inj h).symm⟩
  | cons o os => cases h

/-- A key is refused only under the strict fallback: it looks like an operator, or else it is no
field name or does not stand directly under an operator. -/
theorem checkField_eq_error {fallback : Fallback} {position : Position} {key : String}
    {error : PayloadError} (h : (checkField fallback position key).outcome = .error error) :
    fallback = .strict ∧
      (looksLikeOperator key = true ∧ error = .unrecognizedOperator key ∨
        looksLikeOperator key = false ∧ error = .misplacedField key ∧
          ¬ (position = .underOperator ∧ isFieldName key = true)) := by
  cases fallback with
  | permissive =>
    unfold checkField at h
    dsimp only at h
    split at h <;> cases h
  | strict =>
    refine ⟨rfl, ?_⟩
    unfold checkField at h
    dsimp only at h
    split at h
    · rename_i hlooks
      exact .inl ⟨hlooks, (Except.error.inj h).symm⟩
    split at h
    · cases h
    · rename_i hlooks hplace
      exact .inr ⟨Bool.eq_false_iff.mpr hlooks, (Except.error.inj h).symm, hplace⟩

/-! ## The forms of a part -/

section

variable {limit : Nat} {fallback : Fallback} {depth nesting : Nat} {position : Position}
  {error : PayloadError}

theorem readPart_array_eq_error {items : List Json}
    (h : (readPart limit fallback depth nesting position (.array items)).outcome = .error error) :
    maxNesting < nesting + 1 ∧ error = .nestingExceeded maxNesting ∨
      nesting + 1 ≤ maxNesting ∧
        (readItems limit fallback depth (nesting + 1) items).outcome = .error error := by
  rw [readPart_array] at h
  rcases Attempt.outcome_bind_eq_error.mp h with h | ⟨inner, hinner, h⟩
  · exact .inl (enterContainer_eq_error h)
  · obtain ⟨hle, rfl⟩ := enterContainer_eq_ok_iff.mp hinner
    rcases Attempt.outcome_bind_eq_error.mp h with h | ⟨os, -, h⟩
    · exact .inr ⟨hle, h⟩
    · cases h

/-- An operation is too deep, or its operands cannot be read, or they are none. -/
theorem readPart_operation_eq_error {key : String} {op : Operator} {value : Json}
    (hop : Operator.ofToken? key = some op)
    (h : (readPart limit fallback depth nesting position (.object [(key, value)])).outcome =
      .error error) :
    limit < depth + 1 ∧ error = .depthExceeded limit ∨
      depth + 1 ≤ limit ∧
        ((readPart limit fallback (depth + 1) 0 .underOperator value).outcome = .error error ∨
          error = .noOperands key ∧ ∃ part, part.toOperands = [] ∧
            (readPart limit fallback (depth + 1) 0 .underOperator value).outcome = .ok part) := by
  rw [readPart_operation value hop] at h
  by_cases hle : limit < depth + 1
  · rw [if_pos hle] at h
    exact .inl ⟨hle, (Except.error.inj h).symm⟩
  · rw [if_neg hle] at h
    refine .inr ⟨Nat.not_lt.mp hle, ?_⟩
    rcases Attempt.outcome_bind_eq_error.mp h with h | ⟨part, hpart, h⟩
    · exact .inl h
    · rcases Attempt.outcome_bind_eq_error.mp h with h | ⟨e, -, h⟩
      · obtain ⟨hos, rfl⟩ := applyOperator_eq_error h
        exact .inr ⟨rfl, part, hos, hpart⟩
      · cases h

/-- A field has a key that is refused, or is one container too many, or stands over something that
cannot be read. -/
theorem readPart_field_eq_error {key : String} {value : Json}
    (hop : Operator.ofToken? key = none)
    (h : (readPart limit fallback depth nesting position (.object [(key, value)])).outcome =
      .error error) :
    (checkField fallback position key).outcome = .error error ∨
      maxNesting < nesting + 1 ∧ error = .nestingExceeded maxNesting ∨
      nesting + 1 ≤ maxNesting ∧
        (readPart limit fallback depth (nesting + 1) .inSequence value).outcome =
          .error error := by
  rw [readPart_field value hop] at h
  rcases Attempt.outcome_bind_eq_error.mp h with h | ⟨_, -, h⟩
  · exact .inl h
  · rcases Attempt.outcome_bind_eq_error.mp h with h | ⟨inner, henter, h⟩
    · exact .inr (.inl (enterContainer_eq_error h))
    · obtain ⟨hle, rfl⟩ := enterContainer_eq_ok_iff.mp henter
      rcases Attempt.outcome_bind_eq_error.mp h with h | ⟨part, -, h⟩
      · exact .inr (.inr ⟨hle, h⟩)
      · cases h

/-- A list fails with one of its items. -/
theorem readItems_eq_error {items : List Json}
    (h : (readItems limit fallback depth nesting items).outcome = .error error) :
    ∃ x ∈ items, (readPart limit fallback depth nesting .inSequence x).outcome = .error error := by
  induction items with
  | nil => cases h
  | cons x xs ih =>
    rw [readItems_cons] at h
    rcases Attempt.outcome_bind_eq_error.mp h with h | ⟨part, -, h⟩
    · exact ⟨x, List.mem_cons_self, h⟩
    · rcases Attempt.outcome_bind_eq_error.mp h with h | ⟨rest, -, h⟩
      · obtain ⟨y, hy, h⟩ := ih h
        exact ⟨y, List.mem_cons_of_mem x hy, h⟩
      · cases h

/-- A payload is refused as a part of it is, or it is no object. -/
theorem readPayload_eq_error {payload : Json}
    (h : (readPayload limit fallback payload).outcome = .error error) :
    (readPart limit fallback 0 0 .root payload).outcome = .error error ∨
      error = .notAnExpression ∧ ∀ members, payload ≠ .object members := by
  rw [readPayload] at h
  rcases Attempt.outcome_bind_eq_error.mp h with h | ⟨part, hpart, h⟩
  · exact .inl h
  · refine .inr ?_
    cases payload with
    | object members =>
      rcases part_of_object hpart with ⟨-, e, rfl⟩ | ⟨-, first, rest, rfl⟩ <;> cases h
    | array items =>
      obtain ⟨-, os, -, rfl⟩ := readPart_array_eq_ok.mp hpart
      refine ⟨?_, fun _ => by simp⟩
      cases os <;> exact (Except.error.inj h).symm
    | _ =>
      rw [readPart_literal rfl] at hpart
      obtain rfl := Except.ok.inj hpart
      exact ⟨(Except.error.inj h).symm, fun _ => by simp⟩

/-! ## The permissive fallback refuses no key -/

/-- The error says that a key spells no operator and may not stand where it does. -/
def PayloadError.ConcernsKey : PayloadError → Prop
  | unrecognizedOperator _ => True
  | misplacedField _ => True
  | _ => False

theorem not_concernsKey_of_permissive {j : Json}
    (h : (readPart limit .permissive depth nesting position j).outcome = .error error) :
    ¬ error.ConcernsKey := by
  induction j using Json.partInduction generalizing depth nesting position with
  | literal j s hs =>
    rw [readPart_literal hs] at h
    cases h
  | array items ih =>
    rcases readPart_array_eq_error h with ⟨-, rfl⟩ | ⟨-, h⟩
    · exact id
    · obtain ⟨x, hx, h⟩ := readItems_eq_error h
      exact ih x hx h
  | empty => cases h; exact id
  | several first second others => cases h; exact id
  | operation key op value hop ih =>
    rcases readPart_operation_eq_error hop h with ⟨-, rfl⟩ | ⟨-, h | ⟨rfl, -⟩⟩
    · exact id
    · exact ih h
    · exact id
  | field key value hop ih =>
    rcases readPart_field_eq_error hop h with h | ⟨-, rfl⟩ | ⟨-, h⟩
    · -- the check only warns
      obtain ⟨u, hcheck⟩ : (checkField .permissive position key).Succeeds :=
        checkField_succeeds_iff.mpr fun h => nomatch h
      rw [hcheck] at h
      cases h
    · exact id
    · exact ih h

end

end MailFilter
