import MailFilter.Proofs.Agreement

/-!
# The same part at another place

What the reader carries down with it, two counters and a position, can only make it refuse. What is
accepted at one place is therefore accepted at every place that leaves it no less room, and is read
alike there (`readPart_relocate`): no fewer operators up to the limit, no more containers already
open, and a position directly under an operator if the first is one.

For an operation it does not even matter how many containers are open or what it stands under, and
under the strict fallback nothing else is accepted at the root, in a list or under a field. So
**what is strictly read on its own is read as the same expression one operator further down**, with
one more level allowed, alone or in a list with others, behind a field or without one
(`strict_reading_one_level_down`).
-/

namespace MailFilter

open Json Attempt

/-! ## A place with no less room -/

section

variable {limit limit' : Nat} {fallback : Fallback} {depth depth' nesting nesting' : Nat}
  {position position' : Position}

/-- A container that can still be entered can be entered where fewer are open. -/
theorem enterContainer_relocate {α : Type} {f g : Nat → Attempt α} (hle : nesting' ≤ nesting)
    (hfg : AgreesUnless PayloadError.Any (f (nesting + 1)) (g (nesting' + 1))) :
    AgreesUnless PayloadError.Any (enterContainer nesting >>= f)
      (enterContainer nesting' >>= g) := by
  refine enterContainer_agreesUnless_any fun hentered => ?_
  rw [enterContainer_ok (Nat.le_trans (Nat.add_le_add_right hle 1) hentered), ok_bind]
  exact hfg

theorem checkField_relocate (key : String)
    (hposition : position = .underOperator → position' = .underOperator) :
    AgreesUnless PayloadError.Any (checkField fallback position key)
      (checkField fallback position' key) := by
  cases fallback with
  | permissive => exact .refl _
  | strict =>
    unfold checkField
    dsimp only
    by_cases hlooks : looksLikeOperator key = true
    · rw [if_pos hlooks]
      exact agreesUnless_of_error rfl
    · rw [if_neg hlooks, if_neg hlooks]
      by_cases hplace : position = .underOperator ∧ isFieldName key = true
      · rw [if_pos hplace, if_pos ⟨hposition hplace.1, hplace.2⟩]
        exact .refl _
      · rw [if_neg hplace]
        exact agreesUnless_of_error rfl

/-- **A part that is accepted is read alike wherever there is no less room for it.** -/
theorem readPart_relocate {j : Json} (hdepth : limit + depth' ≤ limit' + depth)
    (hnesting : nesting' ≤ nesting)
    (hposition : position = .underOperator → position' = .underOperator) :
    AgreesUnless PayloadError.Any (readPart limit fallback depth nesting position j)
      (readPart limit' fallback depth' nesting' position' j) := by
  induction j using Json.partInduction
    generalizing depth depth' nesting nesting' position position' with
  | literal j s hs =>
    rw [readPart_literal hs, readPart_literal hs]
    exact .refl _
  | array items ih =>
    rw [readPart_array, readPart_array]
    refine enterContainer_relocate hnesting ?_
    refine AgreesUnless.bind (readItems_agreesUnless fun x hx => ?_) fun _ => .refl _
    exact ih x hx hdepth (Nat.add_le_add_right hnesting 1) id
  | empty => exact .refl _
  | several first second others => exact .refl _
  | operation key op value hop ih =>
    rw [readPart_operation value hop, readPart_operation value hop]
    by_cases hlt : limit < depth + 1
    · rw [if_pos hlt]
      exact agreesUnless_of_error rfl
    · -- what is left of the limit here is left of the other limit there
      rw [if_neg hlt, if_neg (by omega)]
      exact (ih (by omega) (Nat.le_refl 0) id).bind fun _ => .refl _
  | field key value hop ih =>
    rw [readPart_field value hop, readPart_field value hop]
    refine (checkField_relocate key hposition).bind fun _ => ?_
    refine enterContainer_relocate hnesting ?_
    exact (ih hdepth (Nat.add_le_add_right hnesting 1) id).bind fun _ => .refl _

theorem readItems_relocate {items : List Json} (hdepth : limit + depth' ≤ limit' + depth)
    (hnesting : nesting' ≤ nesting) :
    AgreesUnless PayloadError.Any (readItems limit fallback depth nesting items)
      (readItems limit' fallback depth' nesting' items) :=
  readItems_agreesUnless fun _ _ => readPart_relocate hdepth hnesting id

/-- An operation counts containers anew and may stand anywhere. -/
theorem readPart_operation_anywhere {j : Json} (h : j.isOperation = true) (nesting nesting' : Nat)
    (position position' : Position) :
    readPart limit fallback depth nesting position j =
      readPart limit fallback depth nesting' position' j := by
  induction j using Json.partInduction with
  | operation key op value hop => rw [readPart_operation value hop, readPart_operation value hop]
  | field key value hop =>
    rw [isOperation_of_none hop] at h
    cases h
  | literal j s hs =>
    rw [isOperation_literal hs] at h
    cases h
  | array => cases h
  | empty => cases h
  | several => cases h

end

/-! ## Strict readings one operator further down -/

section

variable {limit nesting : Nat} {position : Position}

theorem readPart_of_strict {j : Json} {e : Expression}
    (h : (readPayload limit .strict j).outcome = .ok e) :
    (readPart (limit + 1) .strict 1 nesting position j).outcome = .ok (.expression e) := by
  have hoperation : j.isOperation = true := isOperation_of_strict h
  obtain ⟨members, part, rfl, hpart, ⟨-, rfl⟩ | ⟨hfield, -⟩⟩ := readPayload_eq_ok.mp h
  · have hmoved : AgreesUnless PayloadError.Any (readPart limit .strict 0 0 .root (.object members))
        (readPart (limit + 1) .strict 1 0 .root (.object members)) :=
      readPart_relocate (Nat.le_refl _) (Nat.le_refl _) id
    rw [readPart_operation_anywhere hoperation nesting 0 position .root, hmoved.eq_of_ok hpart]
    exact hpart
  · rw [hoperation] at hfield
    cases hfield

/-- In a list or under a field, as at the root, the strict fallback accepts of objects only
operations, so what is accepted there is accepted on its own. -/
theorem strict_of_readPart {members : List (String × Json)} {part : Part}
    (hposition : position ≠ .underOperator)
    (h : (readPart (limit + 1) .strict 1 nesting position (.object members)).outcome = .ok part) :
    ∃ e, (readPayload limit .strict (.object members)).outcome = .ok e ∧ part = .expression e := by
  rcases part_of_object h with ⟨hoperation, e, rfl⟩ | ⟨hfield, first, rest, rfl⟩
  · have hmoved : AgreesUnless PayloadError.Any
        (readPart (limit + 1) .strict 1 nesting position (.object members))
        (readPart limit .strict 0 0 .root (.object members)) :=
      readPart_relocate (by omega) (Nat.zero_le _) fun hunder => absurd hunder hposition
    refine ⟨e, readPayload_eq_ok.mpr ⟨members, _, rfl, ?_, .inl ⟨hoperation, rfl⟩⟩, rfl⟩
    rw [hmoved.eq_of_ok h]
    exact h
  · obtain ⟨key, value, rfl⟩ := readPart_object_singleton h
    have hop : Operator.ofToken? key = none := by
      rwa [isOperation_object_singleton, Option.isSome_eq_false_iff, Option.isNone_iff_eq_none]
        at hfield
    obtain ⟨hcheck, -⟩ := (readPart_field_succeeds_iff hop).mp ⟨_, h⟩
    exact absurd (hcheck rfl).1 hposition

/-- On their own the payloads are strictly read as these expressions, in this order. -/
def StrictlyRead (limit : Nat) (payloads : List Json) (es : List Expression) : Prop :=
  payloads.map (fun j => (readPayload limit .strict j).outcome) = es.map .ok

theorem strictlyRead_nil_iff {es : List Expression} : StrictlyRead limit [] es ↔ es = [] := by
  rw [StrictlyRead, List.map_nil, eq_comm, List.map_eq_nil_iff]

theorem strictlyRead_cons_iff {j : Json} {js : List Json} {es : List Expression} :
    StrictlyRead limit (j :: js) es ↔
      ∃ e rest, es = e :: rest ∧ (readPayload limit .strict j).outcome = .ok e ∧
        StrictlyRead limit js rest := by
  rw [StrictlyRead, List.map_cons, eq_comm, List.map_eq_cons_iff]
  simp only [StrictlyRead, eq_comm]

theorem exists_strictlyRead_iff {payloads : List Json} :
    (∃ es, StrictlyRead limit payloads es) ↔
      ∀ j ∈ payloads, (readPayload limit .strict j).Succeeds := by
  induction payloads with
  | nil => exact iff_of_true ⟨[], rfl⟩ fun _ h => nomatch h
  | cons j js ih =>
    rw [List.forall_mem_cons, ← ih]
    refine ⟨?_, ?_⟩
    · intro h
      obtain ⟨es, h⟩ := h
      obtain ⟨e, rest, rfl, he, hrest⟩ := strictlyRead_cons_iff.mp h
      exact ⟨⟨e, he⟩, rest, hrest⟩
    · intro h
      obtain ⟨⟨e, he⟩, rest, hrest⟩ := h
      exact ⟨e :: rest, strictlyRead_cons_iff.mpr ⟨e, rest, rfl, he, hrest⟩⟩

/-- Objects in a list, one operator further down, are read as what they are on their own. -/
theorem readItems_strict_eq_ok {payloads : List Json} {os : List Operand}
    (hobjects : ∀ j ∈ payloads, ∃ members, j = .object members) :
    (readItems (limit + 1) .strict 1 nesting payloads).outcome = .ok os ↔
      ∃ es, StrictlyRead limit payloads es ∧ os = es.map .nested := by
  induction payloads generalizing os with
  | nil =>
    simp only [readItems_nil, Attempt.outcome_ok, Except.ok.injEq, strictlyRead_nil_iff,
      exists_eq_left, List.map_nil, eq_comm]
  | cons j js ih =>
    obtain ⟨⟨members, rfl⟩, hjs⟩ := List.forall_mem_cons.mp hobjects
    rw [readItems_cons_eq_ok]
    refine ⟨?_, ?_⟩
    · intro h
      obtain ⟨part, rest, hpart, hrest, rfl⟩ := h
      obtain ⟨e, he, rfl⟩ := strict_of_readPart (show Position.inSequence ≠ _ by decide) hpart
      obtain ⟨es, hes, rfl⟩ := (ih hjs).mp hrest
      exact ⟨e :: es, strictlyRead_cons_iff.mpr ⟨e, es, rfl, he, hes⟩, rfl⟩
    · intro h
      obtain ⟨es, hes, rfl⟩ := h
      obtain ⟨e, rest, rfl, he, hrest⟩ := strictlyRead_cons_iff.mp hes
      exact ⟨_, _, readPart_of_strict he, (ih hjs).mpr ⟨rest, hrest, rfl⟩, rfl⟩

theorem readPart_strict_list_eq_ok {payloads : List Json} {part : Part}
    (hnesting : nesting + 1 ≤ maxNesting)
    (hobjects : ∀ j ∈ payloads, ∃ members, j = .object members) :
    (readPart (limit + 1) .strict 1 nesting position (.array payloads)).outcome = .ok part ↔
      ∃ es, StrictlyRead limit payloads es ∧ part = .operands (es.map .nested) := by
  rw [readPart_array_eq_ok, and_iff_right hnesting]
  simp only [readItems_strict_eq_ok hobjects]
  refine ⟨?_, ?_⟩
  · intro h
    obtain ⟨_, ⟨es, hes, rfl⟩, rfl⟩ := h
    exact ⟨es, hes, rfl⟩
  · intro h
    obtain ⟨es, hes, rfl⟩ := h
    exact ⟨_, ⟨es, hes, rfl⟩, rfl⟩

/-- What stands behind a field directly under an operator is read as if it stood in a list. -/
theorem readPart_strict_field_eq_ok {name : String} {value : Json} {part : Part}
    (hname : isFieldKey name = true) :
    (readPart (limit + 1) .strict 1 0 .underOperator (.single name value)).outcome = .ok part ↔
      ∃ inner, (readPart (limit + 1) .strict 1 1 .inSequence value).outcome = .ok inner ∧
        part = .operands (.field name :: inner.toOperands) := by
  obtain ⟨hfield, hop⟩ := isFieldKey_eq_true_iff.mp hname
  rw [Json.single, readPart_field_eq_ok hop, checkField_succeeds_iff]
  exact (and_iff_right fun _ => ⟨rfl, hfield⟩).trans (and_iff_right (by decide))

/-- An operation at the root is read as its operator applied to what its value contributes. -/
theorem readPayload_single_eq_ok {key : String} {op : Operator} {value : Json} {e : Expression}
    (hkey : Operator.ofToken? key = some op) :
    (readPayload (limit + 1) .strict (.single key value)).outcome = .ok e ↔
      ∃ part first rest,
        (readPart (limit + 1) .strict 1 0 .underOperator value).outcome = .ok part ∧
        part.toOperands = first :: rest ∧ e = .node op first rest := by
  rw [readPayload_eq_ok]
  refine ⟨?_, ?_⟩
  · intro h
    obtain ⟨members, part, -, hpart, hroot⟩ := h
    obtain ⟨-, inner, first, rest, hinner, hos, rfl⟩ := (readPart_operation_eq_ok hkey).mp hpart
    rcases hroot with ⟨-, he⟩ | ⟨hfield, -⟩
    · cases he
      exact ⟨inner, first, rest, hinner, hos, rfl⟩
    · rw [Json.single, isOperation_of_some hkey] at hfield
      cases hfield
  · intro h
    obtain ⟨part, first, rest, hpart, hos, rfl⟩ := h
    exact ⟨_, _, rfl, (readPart_operation_eq_ok hkey).mpr
      ⟨Nat.le_add_left 1 limit, part, first, rest, hpart, hos, rfl⟩,
      .inl ⟨isOperation_of_some hkey, rfl⟩⟩

section

variable {key name : String} {op : Operator} (hkey : Operator.ofToken? key = some op)
include hkey

theorem readPayload_list_eq_ok {payloads : List Json} {e : Expression}
    (hobjects : ∀ j ∈ payloads, ∃ members, j = .object members) :
    (readPayload (limit + 1) .strict (.single key (.array payloads))).outcome = .ok e ↔
      ∃ first rest, StrictlyRead limit payloads (first :: rest) ∧
        e = .node op (.nested first) (rest.map .nested) := by
  rw [readPayload_single_eq_ok hkey]
  simp only [readPart_strict_list_eq_ok (show 0 + 1 ≤ maxNesting by decide) hobjects]
  refine ⟨?_, ?_⟩
  · intro h
    obtain ⟨_, o, os, ⟨es, hes, rfl⟩, hos, rfl⟩ := h
    obtain ⟨first, rest, rfl, rfl, rfl⟩ := List.map_eq_cons_iff.mp hos
    exact ⟨first, rest, hes, rfl⟩
  · intro h
    obtain ⟨first, rest, hes, rfl⟩ := h
    exact ⟨_, _, _, ⟨_, hes, rfl⟩, rfl, rfl⟩

theorem readPayload_field_list_eq_ok (hname : isFieldKey name = true) {payloads : List Json}
    {e : Expression} (hobjects : ∀ j ∈ payloads, ∃ members, j = .object members) :
    (readPayload (limit + 1) .strict
        (.single key (.single name (.array payloads)))).outcome = .ok e ↔
      ∃ es, StrictlyRead limit payloads es ∧ e = .node op (.field name) (es.map .nested) := by
  rw [readPayload_single_eq_ok hkey]
  simp only [readPart_strict_field_eq_ok hname,
    readPart_strict_list_eq_ok (show 1 + 1 ≤ maxNesting by decide) hobjects]
  refine ⟨?_, ?_⟩
  · intro h
    obtain ⟨_, o, os, ⟨_, ⟨es, hes, rfl⟩, rfl⟩, hos, rfl⟩ := h
    obtain ⟨rfl, rfl⟩ := List.cons.inj hos
    exact ⟨es, hes, rfl⟩
  · intro h
    obtain ⟨es, hes, rfl⟩ := h
    exact ⟨_, _, _, ⟨_, ⟨es, hes, rfl⟩, rfl⟩, rfl, rfl⟩

/-- A single object need not stand in a list. -/
theorem readPayload_bare_of_strict (hname : isFieldKey name = true) {j : Json} {e : Expression}
    (h : (readPayload limit .strict j).outcome = .ok e) :
    (readPayload (limit + 1) .strict (.single key j)).outcome = .ok (.node op (.nested e) []) ∧
      (readPayload (limit + 1) .strict (.single key (.single name j))).outcome =
        .ok (.node op (.field name) [.nested e]) := by
  refine ⟨?_, ?_⟩
  · exact (readPayload_single_eq_ok hkey).mpr ⟨_, _, _, readPart_of_strict h, rfl, rfl⟩
  · have hbody := (readPart_strict_field_eq_ok hname).mpr ⟨_, readPart_of_strict h, rfl⟩
    exact (readPayload_single_eq_ok hkey).mpr ⟨_, _, _, hbody, rfl, rfl⟩

end

end

/-- **What is strictly read on its own is read as the same expression one operator further down.**
A list of objects under an operator, and such a list behind a field under an operator, are accepted
with one more level exactly if each object is accepted on its own; the expression then applies the
operator to theirs, in their order and behind the field. A single object need not be in a list. -/
theorem strict_reading_one_level_down (limit : Nat) {key name : String} {op : Operator}
    (hkey : Operator.ofToken? key = some op) (hname : isFieldName name = true)
    (hnoAlias : Operator.ofToken? name = none) {payloads : List Json} (hnonempty : payloads ≠ [])
    (hobjects : ∀ j ∈ payloads, ∃ members, j = .object members) :
    ((readPayload (limit + 1) .strict (.single key (.array payloads))).Succeeds ↔
        ∀ j ∈ payloads, (readPayload limit .strict j).Succeeds) ∧
      ((readPayload (limit + 1) .strict (.single key (.single name (.array payloads)))).Succeeds ↔
        ∀ j ∈ payloads, (readPayload limit .strict j).Succeeds) ∧
      (∀ first rest, StrictlyRead limit payloads (first :: rest) →
        (readPayload (limit + 1) .strict (.single key (.array payloads))).outcome =
            .ok (.node op (.nested first) (rest.map .nested)) ∧
          (readPayload (limit + 1) .strict
              (.single key (.single name (.array payloads)))).outcome =
            .ok (.node op (.field name) (.nested first :: rest.map .nested))) ∧
      ∀ j e, (readPayload limit .strict j).outcome = .ok e →
        (readPayload (limit + 1) .strict (.single key j)).outcome =
            .ok (.node op (.nested e) []) ∧
          (readPayload (limit + 1) .strict (.single key (.single name j))).outcome =
            .ok (.node op (.field name) [.nested e]) := by
  have hfield : isFieldKey name = true := isFieldKey_eq_true_iff.mpr ⟨hname, hnoAlias⟩
  refine ⟨?_, ?_, ?_, ?_⟩
  · rw [← exists_strictlyRead_iff]
    refine ⟨?_, ?_⟩
    · intro h
      obtain ⟨e, h⟩ := h
      obtain ⟨first, rest, hes, -⟩ := (readPayload_list_eq_ok hkey hobjects).mp h
      exact ⟨_, hes⟩
    · intro h
      obtain ⟨es, hes⟩ := h
      -- there is an object, hence an expression for the operator to be applied to
      obtain ⟨j, js, rfl⟩ := List.exists_cons_of_ne_nil hnonempty
      obtain ⟨first, rest, rfl, -⟩ := strictlyRead_cons_iff.mp hes
      exact ⟨_, (readPayload_list_eq_ok hkey hobjects).mpr ⟨first, rest, hes, rfl⟩⟩
  · rw [← exists_strictlyRead_iff]
    refine ⟨?_, ?_⟩
    · intro h
      obtain ⟨e, h⟩ := h
      obtain ⟨es, hes, -⟩ := (readPayload_field_list_eq_ok hkey hfield hobjects).mp h
      exact ⟨es, hes⟩
    · intro h
      obtain ⟨es, hes⟩ := h
      exact ⟨_, (readPayload_field_list_eq_ok hkey hfield hobjects).mpr ⟨es, hes, rfl⟩⟩
  · intro first rest hes
    refine ⟨?_, ?_⟩
    · exact (readPayload_list_eq_ok hkey hobjects).mpr ⟨first, rest, hes, rfl⟩
    · exact (readPayload_field_list_eq_ok hkey hfield hobjects).mpr ⟨_, hes, rfl⟩
  · intro j e h
    exact readPayload_bare_of_strict hkey hfield h

/-- A negation and a membership in a list behind a field, under an operator in mixed case. -/
theorem strict_reading_one_level_down_or :
    Operator.ofToken? "oR" = some .or ∧ isFieldName "to" = true ∧ Operator.ofToken? "to" = none ∧
      (readPayload 2 .strict (.single "oR" (.single "to" (.array [.single "!" (.bool true),
          .single "in" (.single "id" (.array []))])))).outcome =
        .ok (.node .or (.field "to") [.nested (.not (.value (.bool true))),
          .nested (.isIn (.field "id") [])]) := by
  have hkey : Operator.ofToken? "oR" = some .or := by rfl
  have hname : isFieldName "to" = true := by rfl
  have hnoAlias : Operator.ofToken? "to" = none := by rfl
  have hobjects : ∀ j ∈ [Json.single "!" (.bool true), .single "in" (.single "id" (.array []))],
      ∃ members, j = .object members :=
    List.forall_mem_cons.mpr ⟨⟨_, rfl⟩, List.forall_mem_singleton.mpr ⟨_, rfl⟩⟩
  obtain ⟨-, -, htrees, -⟩ := strict_reading_one_level_down 1 hkey hname hnoAlias (by simp) hobjects
  exact ⟨hkey, hname, hnoAlias, (htrees _ [_] (by rfl)).2⟩

end MailFilter
