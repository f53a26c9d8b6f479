import MailFilter.Proofs.RoundTrip

/-!
# An export is canonical

Reading an export need not give the expression back that was exported: names become texts,
identifiers become fields, small unsigned integers become signed, and floats that are not finite
become null. None of this can be seen in a second export. A leaf that changed is written as it was
written before, and **no change makes the exporter choose another form for a node**: a name that
was a key is a field and the same key again, and a name that was none is a text, which never is.

So one export settles the payload, and every later round trip gives the same.
-/

namespace MailFilter

/-! ## What is read back is exported alike -/

theorem Scalar.toJson_reread (s : Scalar) : s.reread.toJson = s.toJson := by
  cases s with
  | unsigned u =>
    show (ofUInt64 u).toJson = .number (Json.Number.ofUInt64 u)
    unfold ofUInt64
    split
    · rfl
    · rename_i hsmall
      rw [Json.Number.ofUInt64, dif_neg hsmall]
      rfl
  | float x =>
    rw [reread]
    split
    · rfl
    · rename_i hx
      show Json.null = (Json.Number.ofFloat? x).elim .null .number
      rw [Json.Number.ofFloat?, dif_neg hx]
      rfl
  | _ => rfl

/-- The same name is the key again. -/
theorem fieldKey?_rereadFirst (first : Operand) (rest : List Operand) :
    fieldKey? (first.rereadFirst rest) (Operand.rereads rest) = fieldKey? first rest := by
  cases hkey : fieldKey? first rest with
  | some name =>
    obtain ⟨-, hname, hrest⟩ := fieldKey?_eq_some_iff.mp hkey
    have hrereads : Operand.rereads rest ≠ [] := by
      cases rest with
      | nil => exact absurd rfl hrest
      | cons o os => exact List.cons_ne_nil _ _
    rw [Operand.rereadFirst, hkey]
    exact fieldKey?_eq_some_iff.mpr ⟨.inl rfl, hname, hrereads⟩
  | none =>
    -- a name that is no key has become a text, and a text is never a key
    rw [Operand.rereadFirst, hkey]
    cases first <;> rfl

mutual

/-- **What an expression is read back as is exported as the expression is.** -/
theorem Expression.payload_reread : ∀ e : Expression, e.reread.payload = e.payload
  | .node op first rest => by
    rw [Expression.reread_node, Expression.payload, Expression.payload, fieldKey?_rereadFirst,
      Operand.payloads_rereads rest, Operand.rereadFirst]
    cases fieldKey? first rest with
    | some name => rfl
    | none =>
      show Json.single op.symbol (.array (first.reread.payload :: _)) = _
      rw [Operand.payload_reread first]

theorem Operand.payload_reread : ∀ o : Operand, o.reread.payload = o.payload
  | .value s => s.toJson_reread
  | .field _ => rfl
  | .identifier _ => rfl
  | .nested e => e.payload_reread

theorem Operand.payloads_rereads :
    ∀ os : List Operand, Operand.payloads (Operand.rereads os) = Operand.payloads os
  | [] => rfl
  | o :: os => by
    rw [Operand.rereads, Operand.payloads, Operand.payloads, Operand.payload_reread o,
      Operand.payloads_rereads os]

end

/-! ## The second export -/

/-- **An export that is read is exported as the same payload again**, under either fallback. As far
as export goes, what was read cannot be told from what was exported, whatever the limit. -/
theorem Expression.export_of_read {limit : Nat} {e : Expression} {j : Json} (fallback : Fallback)
    (h : e.toPayload limit = .ok j) :
    ∃ e', readPayload limit fallback j = .ok e' ∧ e'.toPayload limit = .ok j ∧
      ∀ limit', e'.toPayload limit' = e.toPayload limit' := by
  obtain ⟨hle, rfl⟩ := toPayload_eq_ok_iff.mp h
  have halike (limit' : Nat) : e.reread.toPayload limit' = e.toPayload limit' := by
    rw [e.reread.toPayload_eq, e.toPayload_eq, e.depth_reread, e.payload_reread]
  exact ⟨e.reread, readPayload_payload fallback hle, (halike limit).trans h, halike⟩

/-- An identifier as the key, a name that spells an operator, a small unsigned integer, a float that
is no number, and a field that nothing follows. -/
def perishable : Expression :=
  .isIn (.identifier "id") [.field "and", .value (.unsigned 7), .value (.float (0.0 / 0.0)),
    .nested (.not (.field "active"))]

/-- All of these change, and the payload does not. -/
theorem Expression.export_of_read_perishable :
    ∃ j e', perishable.toPayload 2 = .ok j ∧ readPayload 2 .permissive j = .ok e' ∧
      e' = isIn (.field "id") [.value (.string "and"), .value (.integer 7), .value .null,
        .nested (.not (.value (.string "active")))] ∧
      e'.toPayload 2 = .ok j := by
  have hexport : perishable.toPayload 2 =
      .ok (.single "IN" (.single "id" (.array [.string "and", .number (.integer 7), .null,
        .single "!" (.array [.string "active"])]))) := by rfl
  obtain ⟨e', hread, hagain, -⟩ := export_of_read .permissive hexport
  refine ⟨_, e', hexport, hread, ?_, hagain⟩
  -- the reading can be carried out, which shows what came back
  exact (Except.ok.inj (congrArg Attempt.outcome hread)).symm

end MailFilter
