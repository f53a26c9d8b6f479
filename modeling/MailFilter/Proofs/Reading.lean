import MailFilter.Proofs.Trail

/-!
# What a successful reading consists of

The reader of payloads fails at the first thing wrong, so a reading that succeeds has passed every
check on its way. For each form of a payload part there is one statement here that says which
checks these are and what the result is made of; later files go through a reading by these
statements and do not open the reader again.

Two facts follow at once. What an accepted part contributes is **nothing only if the part is
hollow** (`toOperands_eq_nil_iff`), and the operators on the branches of the result are **the
operations on the trails of the payload** (`depth_toOperands`), except that a field at the root
adds the equality it stands for.
-/

namespace MailFilter

open Json

/-! ## The checks -/

theorem enterContainer_ok {nesting : Nat} (h : nesting + 1 ≤ maxNesting) :
    enterContainer nesting = .ok (nesting + 1) := by
  rw [enterContainer, if_neg (Nat.not_lt.mpr h)]

theorem enterContainer_fail {nesting : Nat} (h : maxNesting < nesting + 1) :
    enterContainer nesting = .fail (.nestingExceeded maxNesting) := by
  rw [enterContainer, if_pos h]

theorem enterContainer_eq_ok_iff {nesting inner : Nat} :
    (enterContainer nesting).outcome = .ok inner ↔
      nesting + 1 ≤ maxNesting ∧ inner = nesting + 1 := by
  unfold enterContainer
  split
  · rename_i h
    simp only [Attempt.outcome_fail, reduceCtorEq, false_iff]
    omega
  · rename_i h
    simp only [Attempt.outcome_ok, Except.ok.injEq]
    omega

/-- A key that spells no operator is refused only under the strict fallback, and then unless it
is a field name directly under an operator. -/
theorem checkField_succeeds_iff {fallback : Fallback} {position : Position} {key : String} :
    (checkField fallback position key).Succeeds ↔
      (fallback = .strict → position = .underOperator ∧ isFieldName key = true) := by
  cases fallback with
  | permissive =>
    have hsucceeds : (checkField .permissive position key).Succeeds := by
      unfold checkField
      dsimp only
      split <;> exact ⟨(), rfl⟩
    simp [hsucceeds]
  | strict =>
    unfold checkField
    dsimp only
    by_cases hname : isFieldName key = true
    · rw [if_neg (by rw [looksLikeOperator_of_isFieldName hname]; simp)]
      by_cases hpos : position = .underOperator
      · simp [hpos, hname]
      · simp [hpos]
    · by_cases hlooks : looksLikeOperator key = true
      · simp [hlooks, hname]
      · simp [hlooks, hname]

theorem applyOperator_eq_ok_iff {key : String} {op : Operator} {os : List Operand}
    {e : Expression} :
    (applyOperator key op os).outcome = .ok e ↔
      ∃ first rest, os = first :: rest ∧ e = .node op first rest := by
  cases os with
  | nil => simp [applyOperator]
  | cons o os =>
    refine ⟨?_, ?_⟩
    · intro h
      exact ⟨o, os, rfl, (Except.ok.inj h).symm⟩
    · intro h
      obtain ⟨first, rest, hos, rfl⟩ := h
      obtain ⟨rfl, rfl⟩ := List.cons.inj hos
      rfl

/-! ## The forms of a part -/

section

variable {limit : Nat} {fallback : Fallback} {depth nesting : Nat} {position : Position}

theorem readPart_array_eq_ok {items : List Json} {part : Part} :
    (readPart limit fallback depth nesting position (.array items)).outcome = .ok part ↔
      nesting + 1 ≤ maxNesting ∧
        ∃ os, (readItems limit fallback depth (nesting + 1) items).outcome = .ok os ∧
          part = .operands os := by
  rw [readPart_array, Attempt.outcome_bind_eq_ok]
  refine ⟨?_, ?_⟩
  · intro h
    obtain ⟨inner, hinner, h⟩ := h
    obtain ⟨hle, rfl⟩ := enterContainer_eq_ok_iff.mp hinner
    obtain ⟨os, hos, h⟩ := Attempt.outcome_bind_eq_ok.mp h
    exact ⟨hle, os, hos, (Except.ok.inj h).symm⟩
  · intro h
    obtain ⟨hle, os, hos, rfl⟩ := h
    exact ⟨nesting + 1, enterContainer_eq_ok_iff.mpr ⟨hle, rfl⟩,
      Attempt.outcome_bind_eq_ok.mpr ⟨os, hos, rfl⟩⟩

/-- An operation is within the limit, and its operands, read afresh, are not none. -/
theorem readPart_operation_eq_ok {key : String} {op : Operator} {value : Json} {part : Part}
    (hop : Operator.ofToken? key = some op) :
    (readPart limit fallback depth nesting position (.object [(key, value)])).outcome = .ok part ↔
      depth + 1 ≤ limit ∧
        ∃ inner first rest,
          (readPart limit fallback (depth + 1) 0 .underOperator value).outcome = .ok inner ∧
          inner.toOperands = first :: rest ∧ part = .expression (.node op first rest) := by
  rw [readPart_operation value hop]
  by_cases hle : limit < depth + 1
  · rw [if_pos hle]
    simp only [Attempt.outcome_fail, reduceCtorEq, false_iff]
    intro h
    obtain ⟨h, -⟩ := h
    omega
  · rw [if_neg hle, Attempt.outcome_bind_eq_ok]
    refine ⟨?_, ?_⟩
    · intro h
      obtain ⟨inner, hinner, h⟩ := h
      obtain ⟨e, he, h⟩ := Attempt.outcome_bind_eq_ok.mp h
      obtain ⟨first, rest, hos, rfl⟩ := applyOperator_eq_ok_iff.mp he
      exact ⟨by omega, inner, first, rest, hinner, hos, (Except.ok.inj h).symm⟩
    · intro h
      obtain ⟨-, inner, first, rest, hinner, hos, rfl⟩ := h
      exact ⟨inner, hinner, Attempt.outcome_bind_eq_ok.mpr
        ⟨_, applyOperator_eq_ok_iff.mpr ⟨first, rest, hos, rfl⟩, rfl⟩⟩

/-- A field passes the check of its key and counts as a container. -/
theorem readPart_field_eq_ok {key : String} {value : Json} {part : Part}
    (hop : Operator.ofToken? key = none) :
    (readPart limit fallback depth nesting position (.object [(key, value)])).outcome = .ok part ↔
      (checkField fallback position key).Succeeds ∧ nesting + 1 ≤ maxNesting ∧
        ∃ inner,
          (readPart limit fallback depth (nesting + 1) .inSequence value).outcome = .ok inner ∧
          part = .operands (.field key :: inner.toOperands) := by
  rw [readPart_field value hop, Attempt.outcome_bind_eq_ok]
  refine ⟨?_, ?_⟩
  · intro h
    obtain ⟨_, hcheck, h⟩ := h
    obtain ⟨_, henter, h⟩ := Attempt.outcome_bind_eq_ok.mp h
    obtain ⟨hle, rfl⟩ := enterContainer_eq_ok_iff.mp henter
    obtain ⟨inner, hinner, h⟩ := Attempt.outcome_bind_eq_ok.mp h
    exact ⟨⟨_, hcheck⟩, hle, inner, hinner, (Except.ok.inj h).symm⟩
  · intro h
    obtain ⟨⟨u, hcheck⟩, hle, inner, hinner, rfl⟩ := h
    exact ⟨u, hcheck, Attempt.outcome_bind_eq_ok.mpr
      ⟨_, enterContainer_eq_ok_iff.mpr ⟨hle, rfl⟩, Attempt.outcome_bind_eq_ok.mpr
        ⟨inner, hinner, rfl⟩⟩⟩

theorem not_succeeds_readPart_object {members : List (String × Json)} (h : members.length ≠ 1) :
    ¬ (readPart limit fallback depth nesting position (.object members)).Succeeds := by
  match members with
  | [] => rw [readPart_object_nil]; exact Attempt.not_succeeds_fail _
  | [_] => exact absurd rfl h
  | _ :: _ :: _ => rw [readPart_object_several]; exact Attempt.not_succeeds_fail _

theorem readPart_object_singleton {members : List (String × Json)} {part : Part}
    (h : (readPart limit fallback depth nesting position (.object members)).outcome = .ok part) :
    ∃ key value, members = [(key, value)] := by
  by_cases hlen : members.length = 1
  · obtain ⟨⟨key, value⟩, rfl⟩ := List.length_eq_one_iff.mp hlen
    exact ⟨key, value, rfl⟩
  · exact absurd ⟨part, h⟩ (not_succeeds_readPart_object hlen)

/-- An operation is read as an expression, a field as operands, of which the field is the first. -/
theorem part_of_object {members : List (String × Json)} {part : Part}
    (h : (readPart limit fallback depth nesting position (.object members)).outcome = .ok part) :
    ((Json.object members).isOperation = true ∧ ∃ e, part = .expression e) ∨
      ((Json.object members).isOperation = false ∧
        ∃ first rest, part = .operands (first :: rest)) := by
  obtain ⟨key, value, rfl⟩ := readPart_object_singleton h
  rw [isOperation_object_singleton]
  cases hop : Operator.ofToken? key with
  | some op =>
    obtain ⟨-, inner, first, rest, -, -, rfl⟩ := (readPart_operation_eq_ok hop).mp h
    exact .inl ⟨rfl, _, rfl⟩
  | none =>
    obtain ⟨-, -, inner, -, rfl⟩ := (readPart_field_eq_ok hop).mp h
    exact .inr ⟨rfl, _, _, rfl⟩

theorem readItems_cons_eq_ok {x : Json} {xs : List Json} {os : List Operand} :
    (readItems limit fallback depth nesting (x :: xs)).outcome = .ok os ↔
      ∃ part rest,
        (readPart limit fallback depth nesting .inSequence x).outcome = .ok part ∧
        (readItems limit fallback depth nesting xs).outcome = .ok rest ∧
        os = part.toOperands ++ rest := by
  rw [readItems_cons, Attempt.outcome_bind_eq_ok]
  refine ⟨?_, ?_⟩
  · intro h
    obtain ⟨part, hpart, h⟩ := h
    obtain ⟨rest, hrest, h⟩ := Attempt.outcome_bind_eq_ok.mp h
    exact ⟨part, rest, hpart, hrest, (Except.ok.inj h).symm⟩
  · intro h
    obtain ⟨part, rest, hpart, hrest, rfl⟩ := h
    exact ⟨part, hpart, Attempt.outcome_bind_eq_ok.mpr ⟨rest, hrest, rfl⟩⟩

theorem readItems_succeeds_iff {items : List Json} :
    (readItems limit fallback depth nesting items).Succeeds ↔
      ∀ x ∈ items, (readPart limit fallback depth nesting .inSequence x).Succeeds := by
  induction items with
  | nil => simp [readItems_nil]
  | cons x xs ih =>
    rw [List.forall_mem_cons, ← ih]
    refine ⟨?_, ?_⟩
    · intro h
      obtain ⟨os, h⟩ := h
      obtain ⟨part, rest, hpart, hrest, -⟩ := readItems_cons_eq_ok.mp h
      exact ⟨⟨part, hpart⟩, ⟨rest, hrest⟩⟩
    · intro h
      obtain ⟨⟨part, hpart⟩, ⟨rest, hrest⟩⟩ := h
      exact ⟨_, readItems_cons_eq_ok.mpr ⟨part, rest, hpart, hrest, rfl⟩⟩

/-! ## Parts that are read without a warning -/

theorem readPart_array_ok {items : List Json} {os : List Operand}
    (hnesting : nesting + 1 ≤ maxNesting)
    (hitems : readItems limit fallback depth (nesting + 1) items = .ok os) :
    readPart limit fallback depth nesting position (.array items) = .ok (.operands os) := by
  rw [readPart_array, enterContainer_ok hnesting, Attempt.ok_bind, hitems, Attempt.ok_bind]
  rfl

theorem readPart_operation_ok {key : String} {op : Operator} {value : Json} {inner : Part}
    {first : Operand} {rest : List Operand} (hop : Operator.ofToken? key = some op)
    (hdepth : depth + 1 ≤ limit)
    (hinner : readPart limit fallback (depth + 1) 0 .underOperator value = .ok inner)
    (hos : inner.toOperands = first :: rest) :
    readPart limit fallback depth nesting position (.object [(key, value)]) =
      .ok (.expression (.node op first rest)) := by
  rw [readPart_operation value hop, if_neg (Nat.not_lt.mpr hdepth), hinner, Attempt.ok_bind, hos,
    applyOperator, Attempt.ok_bind]
  rfl

/-- A key that can only be read as a field is accepted under an operator by either fallback. -/
theorem readPart_field_ok {key : String} {value : Json} {inner : Part}
    (hkey : isFieldKey key = true) (hnesting : nesting + 1 ≤ maxNesting)
    (hinner : readPart limit fallback depth (nesting + 1) .inSequence value = .ok inner) :
    readPart limit fallback depth nesting .underOperator (.object [(key, value)]) =
      .ok (.operands (.field key :: inner.toOperands)) := by
  obtain ⟨hname, hop⟩ := isFieldKey_eq_true_iff.mp hkey
  have hcheck : checkField fallback .underOperator key = .ok () := by
    cases fallback <;> simp [checkField, looksLikeOperator_of_isFieldName hname, hname]
  rw [readPart_field value hop, hcheck, Attempt.ok_bind, enterContainer_ok hnesting,
    Attempt.ok_bind, hinner, Attempt.ok_bind]
  rfl

theorem readItems_cons_ok {x : Json} {xs : List Json} {part : Part} {os : List Operand}
    (hx : readPart limit fallback depth nesting .inSequence x = .ok part)
    (hxs : readItems limit fallback depth nesting xs = .ok os) :
    readItems limit fallback depth nesting (x :: xs) = .ok (part.toOperands ++ os) := by
  rw [readItems_cons, hx, Attempt.ok_bind, hxs, Attempt.ok_bind]
  rfl

theorem part_of_readItems_singleton {x : Json} {os : List Operand}
    (h : readItems limit fallback depth nesting [x] = .ok os) :
    ∃ part, readPart limit fallback depth nesting .inSequence x = .ok part ∧
      part.toOperands = os := by
  rw [readItems_cons] at h
  obtain ⟨part, hpart, h⟩ := Attempt.bind_eq_ok.mp h
  obtain ⟨os', hos', h⟩ := Attempt.bind_eq_ok.mp h
  rw [readItems_nil] at hos'
  obtain rfl := Except.ok.inj (congrArg Attempt.outcome hos')
  refine ⟨part, hpart, ?_⟩
  rw [← List.append_nil part.toOperands]
  exact Except.ok.inj (congrArg Attempt.outcome h)

/-! ## Only hollow parts contribute nothing -/

theorem readItems_eq_nil_iff {items : List Json} {os : List Operand}
    (IH : ∀ x ∈ items, ∀ part,
      (readPart limit fallback depth nesting .inSequence x).outcome = .ok part →
        (part.toOperands = [] ↔ x.Hollow))
    (h : (readItems limit fallback depth nesting items).outcome = .ok os) :
    os = [] ↔ ∀ x ∈ items, x.Hollow := by
  induction items generalizing os with
  | nil =>
    rw [readItems_nil] at h
    simp [← Except.ok.inj h]
  | cons x xs ih =>
    obtain ⟨part, rest, hpart, hrest, rfl⟩ := readItems_cons_eq_ok.mp h
    obtain ⟨hx, hxs⟩ := List.forall_mem_cons.mp IH
    rw [List.append_eq_nil_iff, List.forall_mem_cons, hx part hpart, ih hxs hrest]

theorem toOperands_eq_nil_iff {j : Json} {part : Part}
    (h : (readPart limit fallback depth nesting position j).outcome = .ok part) :
    part.toOperands = [] ↔ j.Hollow := by
  induction j using Json.induction generalizing depth nesting position part with
  | literal j s hs =>
    rw [readPart_literal hs] at h
    obtain rfl := Except.ok.inj h
    simp [not_hollow_literal hs]
  | array items ih =>
    obtain ⟨-, os, hos, rfl⟩ := readPart_array_eq_ok.mp h
    rw [hollow_array_iff]
    exact readItems_eq_nil_iff (fun x hx _ hpart => ih x hx hpart) hos
  | object members ih =>
    rcases part_of_object h with ⟨-, e, rfl⟩ | ⟨-, first, rest, rfl⟩
    · simp [not_hollow_object]
    · simp [not_hollow_object]

/-! ## When a part is accepted -/

theorem readPart_array_succeeds_iff {items : List Json} :
    (readPart limit fallback depth nesting position (.array items)).Succeeds ↔
      nesting + 1 ≤ maxNesting ∧
        ∀ x ∈ items, (readPart limit fallback depth (nesting + 1) .inSequence x).Succeeds := by
  rw [← readItems_succeeds_iff]
  refine ⟨?_, ?_⟩
  · intro h
    obtain ⟨part, h⟩ := h
    obtain ⟨hle, os, hos, -⟩ := readPart_array_eq_ok.mp h
    exact ⟨hle, os, hos⟩
  · intro h
    obtain ⟨hle, os, hos⟩ := h
    exact ⟨_, readPart_array_eq_ok.mpr ⟨hle, os, hos, rfl⟩⟩

theorem readPart_operation_succeeds_iff {key : String} {op : Operator} {value : Json}
    (hop : Operator.ofToken? key = some op) :
    (readPart limit fallback depth nesting position (.object [(key, value)])).Succeeds ↔
      depth + 1 ≤ limit ∧ ¬ value.Hollow ∧
        (readPart limit fallback (depth + 1) 0 .underOperator value).Succeeds := by
  refine ⟨?_, ?_⟩
  · intro h
    obtain ⟨part, h⟩ := h
    obtain ⟨hle, inner, first, rest, hinner, hos, -⟩ := (readPart_operation_eq_ok hop).mp h
    refine ⟨hle, ?_, inner, hinner⟩
    rw [← toOperands_eq_nil_iff hinner, hos]
    exact List.cons_ne_nil first rest
  · intro h
    obtain ⟨hle, hsolid, inner, hinner⟩ := h
    -- what is not hollow has given an operand, which is what the operator needs
    rw [← toOperands_eq_nil_iff hinner] at hsolid
    obtain ⟨first, rest, hos⟩ := List.exists_cons_of_ne_nil hsolid
    exact ⟨_, (readPart_operation_eq_ok hop).mpr ⟨hle, inner, first, rest, hinner, hos, rfl⟩⟩

theorem readPart_field_succeeds_iff {key : String} {value : Json}
    (hop : Operator.ofToken? key = none) :
    (readPart limit fallback depth nesting position (.object [(key, value)])).Succeeds ↔
      (fallback = .strict → position = .underOperator ∧ isFieldName key = true) ∧
        nesting + 1 ≤ maxNesting ∧
        (readPart limit fallback depth (nesting + 1) .inSequence value).Succeeds := by
  rw [← checkField_succeeds_iff]
  refine ⟨?_, ?_⟩
  · intro h
    obtain ⟨part, h⟩ := h
    obtain ⟨hcheck, hle, inner, hinner, -⟩ := (readPart_field_eq_ok hop).mp h
    exact ⟨hcheck, hle, inner, hinner⟩
  · intro h
    obtain ⟨hcheck, hle, inner, hinner⟩ := h
    exact ⟨_, (readPart_field_eq_ok hop).mpr ⟨hcheck, hle, inner, hinner, rfl⟩⟩

/-! ## The operators of the result are the operations of the payload -/

theorem depthOfList_append (os os' : List Operand) :
    Operand.depthOfList (os ++ os') = max (Operand.depthOfList os) (Operand.depthOfList os') := by
  induction os with
  | nil => simp [Operand.depthOfList]
  | cons o os ih =>
    rw [List.cons_append, Operand.depthOfList, ih, Operand.depthOfList, Nat.max_assoc]

theorem depthOfList_readItems {items : List Json} {os : List Operand}
    (IH : ∀ x ∈ items, ∀ part,
      (readPart limit fallback depth nesting .inSequence x).outcome = .ok part →
        Operand.depthOfList part.toOperands = x.operatorDepth)
    (h : (readItems limit fallback depth nesting items).outcome = .ok os) :
    Operand.depthOfList os = operatorDepthOfItems items := by
  induction items generalizing os with
  | nil =>
    rw [readItems_nil] at h
    rw [← Except.ok.inj h]
    rfl
  | cons x xs ih =>
    obtain ⟨part, rest, hpart, hrest, rfl⟩ := readItems_cons_eq_ok.mp h
    obtain ⟨hx, hxs⟩ := List.forall_mem_cons.mp IH
    rw [depthOfList_append, hx part hpart, ih hxs hrest, operatorDepthOfItems]

/-- **Branches of the result carry as many operators as trails of the payload operations.** -/
theorem depth_toOperands {j : Json} {part : Part}
    (h : (readPart limit fallback depth nesting position j).outcome = .ok part) :
    Operand.depthOfList part.toOperands = j.operatorDepth := by
  induction j using Json.induction generalizing depth nesting position part with
  | literal j s hs =>
    rw [readPart_literal hs] at h
    obtain rfl := Except.ok.inj h
    rw [operatorDepth_literal hs]
    rfl
  | array items ih =>
    obtain ⟨-, os, hos, rfl⟩ := readPart_array_eq_ok.mp h
    rw [operatorDepth_array]
    exact depthOfList_readItems (fun x hx _ hpart => ih x hx hpart) hos
  | object members ih =>
    obtain ⟨key, value, rfl⟩ := readPart_object_singleton h
    rw [operatorDepth_object_singleton]
    cases hop : Operator.ofToken? key with
    | some op =>
      obtain ⟨-, inner, first, rest, hinner, hos, rfl⟩ := (readPart_operation_eq_ok hop).mp h
      have hdepth := ih _ (List.mem_singleton.mpr rfl) hinner
      rw [hos, Operand.depthOfList] at hdepth
      simp only [Part.toOperands_expression, Operand.depthOfList, Operand.depth, Expression.depth,
        hdepth, Nat.max_zero, Option.isSome_some, if_true]
    | none =>
      obtain ⟨-, -, inner, hinner, rfl⟩ := (readPart_field_eq_ok hop).mp h
      have hdepth := ih _ (List.mem_singleton.mpr rfl) hinner
      simp [Operand.depthOfList, Operand.depth, hdepth]

end

/-! ## The root -/

/-- A payload that is read is an object, and its expression is the operation that it is, or the
equality that its field stands for. -/
theorem readPayload_eq_ok {limit : Nat} {fallback : Fallback} {payload : Json} {e : Expression} :
    (readPayload limit fallback payload).outcome = .ok e ↔
      ∃ members part, payload = .object members ∧
        (readPart limit fallback 0 0 .root payload).outcome = .ok part ∧
        ((payload.isOperation = true ∧ part = .expression e) ∨
          (payload.isOperation = false ∧
            ∃ first rest, part = .operands (first :: rest) ∧ e = .node .eq first rest)) := by
  rw [readPayload, Attempt.outcome_bind_eq_ok]
  refine ⟨?_, ?_⟩
  · intro h
    obtain ⟨part, hpart, hroot⟩ := h
    cases payload with
    | object members =>
      refine ⟨members, part, rfl, hpart, ?_⟩
      rcases part_of_object hpart with ⟨hop, e', rfl⟩ | ⟨hop, first, rest, rfl⟩
      · exact .inl ⟨hop, congrArg _ (Except.ok.inj hroot)⟩
      · exact .inr ⟨hop, first, rest, rfl, (Except.ok.inj hroot).symm⟩
    | array items =>
      obtain ⟨-, os, -, rfl⟩ := readPart_array_eq_ok.mp hpart
      cases os <;> cases hroot
    | _ =>
      rw [readPart_literal rfl] at hpart
      obtain rfl := Except.ok.inj hpart
      cases hroot
  · intro h
    obtain ⟨members, part, rfl, hpart, ⟨-, rfl⟩ | ⟨-, first, rest, rfl, rfl⟩⟩ := h
    · exact ⟨_, hpart, rfl⟩
    · exact ⟨_, hpart, rfl⟩

theorem readPayload_succeeds_iff_readPart {limit : Nat} {fallback : Fallback} {payload : Json} :
    (readPayload limit fallback payload).Succeeds ↔
      (∃ members, payload = .object members) ∧
        (readPart limit fallback 0 0 .root payload).Succeeds := by
  refine ⟨?_, ?_⟩
  · intro h
    obtain ⟨e, h⟩ := h
    obtain ⟨members, part, hobject, hpart, -⟩ := readPayload_eq_ok.mp h
    exact ⟨⟨members, hobject⟩, part, hpart⟩
  · intro h
    obtain ⟨⟨members, rfl⟩, part, hpart⟩ := h
    rcases part_of_object hpart with ⟨hop, e, rfl⟩ | ⟨hop, first, rest, rfl⟩
    · exact ⟨e, readPayload_eq_ok.mpr ⟨members, _, rfl, hpart, .inl ⟨hop, rfl⟩⟩⟩
    · exact ⟨_, readPayload_eq_ok.mpr
        ⟨members, _, rfl, hpart, .inr ⟨hop, first, rest, rfl, rfl⟩⟩⟩

/-- **The expression has the operator depth of the payload**, and one more level for the equality
that a field at the root stands for. -/
theorem depth_readPayload {limit : Nat} {fallback : Fallback} {payload : Json} {e : Expression}
    (h : (readPayload limit fallback payload).outcome = .ok e) :
    e.depth = payload.operatorDepth + if payload.isOperation then 0 else 1 := by
  obtain ⟨members, part, rfl, hpart, hroot⟩ := readPayload_eq_ok.mp h
  rw [← depth_toOperands hpart]
  rcases hroot with ⟨hop, rfl⟩ | ⟨hop, first, rest, rfl, rfl⟩
  · simp [hop, Operand.depthOfList, Operand.depth]
  · simp [hop, Operand.depthOfList, Expression.depth, Nat.add_comm]

end MailFilter
