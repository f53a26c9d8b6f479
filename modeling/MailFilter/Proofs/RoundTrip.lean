import MailFilter.Proofs.Limit
import MailFilter.Proofs.Reading
import MailFilter.Proofs.Recovery

/-!
# Export and then read

The payload that an expression is exported as is always read again, under the same limit, under
either fallback, and without a warning: the result is the expression's `reread` form. Levels are
counted alike on both ways, a key is written only where the reader takes it for a field, and at
most two containers stand between one operator and the next.

What the round trip does to an expression is then what `reread` does to it.
-/

namespace MailFilter

/-- A body under a field key is read as the operands it was made of. -/
theorem readPart_fieldBody {limit : Nat} {fallback : Fallback} {depth nesting : Nat}
    {rest : List Operand} (hnesting : nesting + 1 ≤ maxNesting)
    (hrest : ∀ n, readItems limit fallback depth n (Operand.payloads rest) =
      .ok (Operand.rereads rest)) :
    ∃ part,
      readPart limit fallback depth nesting .inSequence (fieldBody (Operand.payloads rest)) =
          .ok part ∧
        part.toOperands = Operand.rereads rest := by
  match rest with
  | [] => exact ⟨_, readPart_array_ok hnesting (hrest _), rfl⟩
  | [_] => exact part_of_readItems_singleton (hrest nesting)
  | _ :: _ :: _ => exact ⟨_, readPart_array_ok hnesting (hrest _), rfl⟩

mutual

/-- **An export is read as the `reread` form of what was exported**, without a warning. -/
theorem Expression.readPart_payload (limit : Nat) (fallback : Fallback) (depth nesting : Nat)
    (position : Position) : ∀ e : Expression, depth + e.depth ≤ limit →
      readPart limit fallback depth nesting position e.payload = .ok (.expression e.reread)
  | .node op first rest, h => by
    rw [Expression.depth] at h
    -- the operator opens a level and counts containers anew, so the rest is read at any nesting
    have hrest (n : Nat) := Operand.readItems_payloads limit fallback (depth + 1) n rest (by omega)
    have hunder : 0 + 1 ≤ maxNesting := by decide
    have hinside : 1 + 1 ≤ maxNesting := by decide
    rw [Expression.payload, Expression.reread]
    cases hkey : fieldKey? first rest with
    | some name =>
      obtain ⟨-, hfield, -⟩ := fieldKey?_eq_some_iff.mp hkey
      -- the field and the list under it are all the containers before the next operator
      obtain ⟨part, hpart, hos⟩ := readPart_fieldBody hinside hrest
      have hbody := readPart_field_ok hfield hunder hpart
      rw [hos] at hbody
      exact readPart_operation_ok (Operator.ofToken?_symbol op) (by omega) hbody rfl
    | none =>
      obtain ⟨part, hpart, hos⟩ :=
        Operand.readPart_payload limit fallback (depth + 1) 1 .inSequence first (by omega)
      have hitems := readItems_cons_ok hpart (hrest 1)
      rw [hos] at hitems
      exact readPart_operation_ok (Operator.ofToken?_symbol op) (by omega)
        (readPart_array_ok hunder hitems) rfl

theorem Operand.readPart_payload (limit : Nat) (fallback : Fallback) (depth nesting : Nat)
    (position : Position) : ∀ o : Operand, depth + o.depth ≤ limit → ∃ part,
      readPart limit fallback depth nesting position o.payload = .ok part ∧
        part.toOperands = [o.reread]
  | .value s, _ => ⟨_, readPart_literal s.ofJson_toJson, rfl⟩
  | .field name, _ => ⟨.literal (.string name), readPart_literal rfl, rfl⟩
  | .identifier name, _ => ⟨.literal (.string name), readPart_literal rfl, rfl⟩
  | .nested e, h => ⟨_, e.readPart_payload limit fallback depth nesting position h, rfl⟩

theorem Operand.readItems_payloads (limit : Nat) (fallback : Fallback) (depth nesting : Nat) :
    ∀ os : List Operand, depth + Operand.depthOfList os ≤ limit →
      readItems limit fallback depth nesting (Operand.payloads os) = .ok (Operand.rereads os)
  | [], _ => by rw [Operand.payloads, readItems_nil]; rfl
  | o :: os, h => by
    rw [Operand.depthOfList] at h
    obtain ⟨part, hpart, hos⟩ :=
      Operand.readPart_payload limit fallback depth nesting .inSequence o (by omega)
    have hrest := Operand.readItems_payloads limit fallback depth nesting os (by omega)
    rw [Operand.payloads, readItems_cons_ok hpart hrest, hos, Operand.rereads]
    rfl

end

theorem Expression.readPayload_payload {limit : Nat} (fallback : Fallback) {e : Expression}
    (h : e.depth ≤ limit) : readPayload limit fallback e.payload = .ok e.reread := by
  rw [readPayload, e.readPart_payload limit fallback 0 0 .root (by omega), Attempt.ok_bind]
  rfl

theorem Expression.toPayload_eq_ok_iff {limit : Nat} {e : Expression} {j : Json} :
    e.toPayload limit = .ok j ↔ e.depth ≤ limit ∧ j = e.payload := by
  rw [Expression.toPayload_eq]
  exact withinDepth_eq_ok_iff

/-! ## The round trip -/

/-- **What was exported is read without a warning** and has kept its depth and outline, and its
text too exactly if there is no float in it that is infinite or no number. -/
theorem Expression.read_of_export {limit : Nat} {e : Expression} {j : Json}
    (fallback : Fallback) (h : e.toPayload limit = .ok j) :
    ∃ e', readPayload limit fallback j = .ok e' ∧
      e'.depth = e.depth ∧ e'.outline = e.outline ∧
      (e'.text = e.text ↔
        ∀ node ∈ e.nodes, ∀ x, .value (.float x) ∈ node.operands →
          ¬ (x.isNaN = true ∨ x.isInf = true)) := by
  obtain ⟨hle, rfl⟩ := toPayload_eq_ok_iff.mp h
  refine ⟨e.reread, readPayload_payload fallback hle, e.depth_reread, e.outline_reread, ?_⟩
  simp only [← isFinite_eq_true_iff]
  exact e.text_reread.eq_iff

/-- An unsigned integer in the signed range, a field that nothing follows, and a limit that is
used up. -/
theorem Expression.read_of_export_in_over_not :
    ∃ j e', (isIn (.field "id") [.value (.unsigned 7), .nested (.not (.field "active"))]).toPayload
        2 = .ok j ∧
      readPayload 2 .strict j = .ok e' ∧ e'.depth = 2 ∧ e'.text = "IN id 7 ! active" := by
  have hexport :
      (isIn (.field "id") [.value (.unsigned 7), .nested (.not (.field "active"))]).toPayload 2 =
        .ok (.single "IN" (.single "id" (.array
          [.number (.integer 7), .single "!" (.array [.string "active"])]))) := by rfl
  obtain ⟨e', hread, hdepth, -, htext⟩ := read_of_export .strict hexport
  refine ⟨_, e', hexport, hread, hdepth, htext.mpr ?_⟩
  simp [isIn, Expression.not, nodes, Operand.nodes, Operand.nodesOfList, operands, first, rest]

/-- **Export and reading recover exactly the expressions in which every node is recoverable**,
whether they are compared as data or as values compare. -/
theorem Expression.recovered_iff (fallback : Fallback) {limit : Nat} {e : Expression}
    (h : e.depth ≤ limit) :
    ∃ j e', e.toPayload limit = .ok j ∧ (readPayload limit fallback j).outcome = .ok e' ∧
      (e' = e ↔ ∀ node ∈ e.nodes, node.Recoverable) ∧
      (e'.same e = true ↔ ∀ node ∈ e.nodes, node.Recoverable) := by
  refine ⟨e.payload, e.reread, toPayload_eq_ok_iff.mpr ⟨h, rfl⟩, ?_, e.reread_eq_iff, ?_⟩
  · rw [readPayload_payload fallback h, Attempt.outcome_ok]
  · rw [e.same_reread_iff, e.reread_eq_iff]

/-- The least unsigned integer above the signed range behind a field comes back. -/
theorem Expression.recovered_iff_in_over_not :
    ∃ j, (isIn (.field "id")
          [.value (.unsigned 9223372036854775808), .nested (.not (.value .null))]).toPayload 2 =
        .ok j ∧
      (readPayload 2 .strict j).outcome = .ok (isIn (.field "id")
        [.value (.unsigned 9223372036854775808), .nested (.not (.value .null))]) := by
  have hdepth : (isIn (.field "id")
      [.value (.unsigned 9223372036854775808), .nested (.not (.value .null))]).depth ≤ 2 := by
    decide
  obtain ⟨j, e', hexport, hread, hdata, -⟩ := recovered_iff .strict hdepth
  have hkey : isFieldKey "id" = true := by decide
  have hlarge : Scalar.ofUInt64 9223372036854775808 = .unsigned 9223372036854775808 := by rfl
  obtain rfl := hdata.mpr (by
    simp [isIn, Expression.not, forall_nodes_iff, recoverable_iff, Operand.nodes,
      Operand.nodesOfList, Operand.KeptFirst, Operand.Kept, Scalar.reread, hkey, hlarge])
  exact ⟨j, hexport, hread⟩

end MailFilter
