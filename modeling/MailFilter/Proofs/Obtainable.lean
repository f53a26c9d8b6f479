import MailFilter.Proofs.Grammar
import MailFilter.Proofs.Recovery

/-!
# The expressions that a strict reading yields

Under the strict fallback a field stands directly under an operator, so among the operands of what
is read it comes first or not at all, and its name is a field name that spells no operator. Nothing
is read as an identifier, and the numbers come from JSON, where unsigned ones are above the signed
range and floats are finite. A node for which all this holds is called **obtainable**.

There is no further condition: **an expression is read from some payload exactly if it is within
the limit and each of its nodes is obtainable** (`obtained_strict_iff`). The payload is not always
the one that the expression is exported as, since export makes a text of a field that nothing
follows. `source` puts such a field over an empty list.
-/

namespace MailFilter

/-- The operands of an expression are such as a strict reading puts there. That there is one at
least is part of what an expression is. -/
structure Expression.Obtainable (node : Expression) : Prop where
  /-- No operand is an identifier. -/
  noIdentifier : ∀ name, .identifier name ∉ node.operands
  /-- A field is named in no place but the first. -/
  fieldFirst : ∀ name, .field name ∉ node.rest
  /-- The name of a field is a field name and spells no operator. -/
  fieldKey : ∀ name, node.first = .field name →
    isFieldName name = true ∧ Operator.ofToken? name = none
  /-- Unsigned integers are above the signed range. -/
  unsigned : ∀ u, .value (.unsigned u) ∈ node.operands → Int64.maxValue.toInt < u.toNat
  /-- Floats are finite. -/
  float : ∀ x, .value (.float x) ∈ node.operands → x.isFinite = true

/-- The operand may come first, what is nested in it apart. -/
def Operand.Leads : Operand → Prop
  | .field name => isFieldKey name = true
  | o => o.Kept

theorem Operand.Kept.leads {o : Operand} (h : o.Kept) : o.Leads := by
  cases o with
  | field name => exact absurd h id
  | _ => exact h

/-- The condition on a node is one on its first operand and one on each other. -/
theorem Expression.obtainable_iff {op : Operator} {first : Operand} {rest : List Operand} :
    (Expression.node op first rest).Obtainable ↔ first.Leads ∧ ∀ o ∈ rest, o.Kept := by
  have hfirst : first.Leads ↔ ((∀ name, first ≠ .field name) → first.Kept) ∧
      ∀ name, first = .field name → isFieldName name = true ∧ Operator.ofToken? name = none := by
    cases first with
    | field name => simp [Operand.Leads, isFieldKey_eq_true_iff]
    | _ => simp [Operand.Leads]
  have hoperands := Operand.forall_operands_iff first rest
  rw [hfirst]
  refine ⟨fun h => ?_, fun h => ?_⟩
  · obtain ⟨hkept, hrest⟩ := hoperands.mp ⟨h.noIdentifier, h.fieldFirst, h.unsigned, h.float⟩
    exact ⟨⟨hkept, h.fieldKey⟩, hrest⟩
  · obtain ⟨⟨hkept, hkey⟩, hrest⟩ := h
    obtain ⟨hidentifier, hfield, hunsigned, hfloat⟩ := hoperands.mpr ⟨hkept, hrest⟩
    exact ⟨hidentifier, hfield, hkey, hunsigned, hfloat⟩

/-! ## What is read is obtainable -/

/-- What JSON has a form for is read back as it is. -/
theorem Scalar.reread_of_ofJson {j : Json} {s : Scalar} (h : Scalar.ofJson j = .ok s) :
    s.reread = s := by
  cases j with
  | number n =>
    obtain rfl := Except.ok.inj h
    cases n with
    | integer i => rfl
    | unsigned u above => exact if_pos above
    | float x finite => exact if_pos finite
  | array => cases h
  | object => cases h
  | _ => obtain rfl := Except.ok.inj h; rfl

/-- The operands may be what a part contributes that is read strictly at the position: a field is
among them only as the first, and only directly under an operator. -/
def Operand.Allowed (position : Position) : List Operand → Prop
  | [] => True
  | first :: rest =>
    (first.Kept ∨ position = .underOperator ∧ first.Leads) ∧ ∀ o ∈ rest, o.Kept

theorem Operand.allowed_of_kept {position : Position} {os : List Operand}
    (h : ∀ o ∈ os, o.Kept) : Operand.Allowed position os := by
  cases os with
  | nil => trivial
  | cons o os =>
    obtain ⟨ho, hos⟩ := List.forall_mem_cons.mp h
    exact ⟨.inl ho, hos⟩

theorem Operand.kept_of_allowed {os : List Operand} (h : Operand.Allowed .inSequence os) :
    ∀ o ∈ os, o.Kept := by
  cases os with
  | nil => exact List.forall_mem_nil _
  | cons o os =>
    obtain ⟨ho | ⟨hposition, -⟩, hos⟩ := h
    · exact List.forall_mem_cons.mpr ⟨ho, hos⟩
    · cases hposition

section

variable {limit depth nesting : Nat} {position : Position}

theorem obtainable_readItems {items : List Json} {os : List Operand}
    (IH : ∀ x ∈ items, ∀ part,
      (readPart limit .strict depth nesting .inSequence x).outcome = .ok part →
        Operand.Allowed .inSequence part.toOperands ∧
          ∀ node ∈ Operand.nodesOfList part.toOperands, node.Obtainable)
    (h : (readItems limit .strict depth nesting items).outcome = .ok os) :
    (∀ o ∈ os, o.Kept) ∧ ∀ node ∈ Operand.nodesOfList os, node.Obtainable := by
  induction items generalizing os with
  | nil =>
    rw [readItems_nil] at h
    obtain rfl := Except.ok.inj h
    exact ⟨List.forall_mem_nil _, List.forall_mem_nil _⟩
  | cons x xs ih =>
    obtain ⟨part, rest, hpart, hrest, rfl⟩ := readItems_cons_eq_ok.mp h
    obtain ⟨hx, hxs⟩ := List.forall_mem_cons.mp IH
    obtain ⟨hallowed, hnodes⟩ := hx part hpart
    obtain ⟨hkept, hnodes'⟩ := ih hxs hrest
    rw [Operand.nodesOfList_append, List.forall_mem_append, List.forall_mem_append]
    exact ⟨⟨Operand.kept_of_allowed hallowed, hkept⟩, hnodes, hnodes'⟩

/-- **What a part contributes under the strict fallback is allowed where it stands**, and the
expressions in it are obtainable. -/
theorem obtainable_readPart {j : Json} {part : Part}
    (h : (readPart limit .strict depth nesting position j).outcome = .ok part) :
    Operand.Allowed position part.toOperands ∧
      ∀ node ∈ Operand.nodesOfList part.toOperands, node.Obtainable := by
  induction j using Json.partInduction generalizing depth nesting position part with
  | literal j s hs =>
    rw [readPart_literal hs] at h
    obtain rfl := Except.ok.inj h
    have hkept : (Operand.value s).Kept := Scalar.reread_of_ofJson hs
    exact ⟨⟨.inl hkept, List.forall_mem_nil _⟩, List.forall_mem_nil _⟩
  | array items ih =>
    obtain ⟨-, os, hos, rfl⟩ := readPart_array_eq_ok.mp h
    obtain ⟨hkept, hnodes⟩ := obtainable_readItems (fun x hx _ hpart => ih x hx hpart) hos
    exact ⟨Operand.allowed_of_kept hkept, hnodes⟩
  | empty => cases h
  | several first second others => cases h
  | operation key op value hop ih =>
    obtain ⟨-, inner, first, rest, hinner, hos, rfl⟩ := (readPart_operation_eq_ok hop).mp h
    obtain ⟨hallowed, hnodes⟩ := ih hinner
    rw [hos] at hallowed hnodes
    obtain ⟨hfirst, hrest⟩ := hallowed
    have hleads : first.Leads := hfirst.elim Operand.Kept.leads fun h => h.2
    refine ⟨⟨.inl trivial, List.forall_mem_nil _⟩, ?_⟩
    rw [Part.toOperands_expression, Operand.nodesOfList, Operand.nodesOfList, List.append_nil]
    exact Expression.forall_nodes_iff.mpr
      ⟨Expression.obtainable_iff.mpr ⟨hleads, hrest⟩, Operand.forall_nodesOfList_iff.mp hnodes⟩
  | field key value hop ih =>
    obtain ⟨hcheck, -, inner, hinner, rfl⟩ := (readPart_field_eq_ok hop).mp h
    obtain ⟨hposition, hname⟩ := checkField_succeeds_iff.mp hcheck rfl
    obtain ⟨hallowed, hnodes⟩ := ih hinner
    have hleads : (Operand.field key).Leads := isFieldKey_eq_true_iff.mpr ⟨hname, hop⟩
    exact ⟨⟨.inr ⟨hposition, hleads⟩, Operand.kept_of_allowed hallowed⟩, hnodes⟩

end

/-! ## What is obtainable is read -/

mutual

/-- A payload that an expression is read from, if it is read from any. -/
def Expression.source : Expression → Json
  | .node op first rest =>
    match first.asField? with
    | some name => .single op.symbol (.single name (.array (Operand.sources rest)))
    | none => .single op.symbol (.array (first.source :: Operand.sources rest))

/-- The payload of an operand that is no field. -/
def Operand.source : Operand → Json
  | .value scalar => scalar.toJson
  | .field name => .string name
  | .identifier name => .string name
  | .nested e => e.source

/-- The payloads of operands that are no fields. -/
def Operand.sources : List Operand → List Json
  | [] => []
  | o :: os => o.source :: Operand.sources os

end

mutual

/-- **An expression whose nodes are obtainable is read from its source**, by either fallback. -/
theorem Expression.readPart_source (limit : Nat) (fallback : Fallback) (depth nesting : Nat)
    (position : Position) : ∀ e : Expression, depth + e.depth ≤ limit →
      (∀ node ∈ e.nodes, node.Obtainable) →
      readPart limit fallback depth nesting position e.source = .ok (.expression e)
  | .node op first rest, hdepth, h => by
    rw [Expression.depth] at hdepth
    obtain ⟨hnode, hfirst, hrest⟩ := Expression.forall_nodes_iff.mp h
    obtain ⟨hleads, hkept⟩ := Expression.obtainable_iff.mp hnode
    have hitems (n : Nat) :=
      Operand.readItems_sources limit fallback (depth + 1) n rest (by omega) hkept hrest
    have hunder : 0 + 1 ≤ maxNesting := by decide
    have hinside : 1 + 1 ≤ maxNesting := by decide
    rw [Expression.source]
    cases hfield : first.asField? with
    | some name =>
      obtain rfl := Operand.asField?_eq_some_iff.mp hfield
      have hbody := readPart_field_ok hleads hunder (readPart_array_ok hinside (hitems 2))
      exact readPart_operation_ok (Operator.ofToken?_symbol op) (by omega) hbody rfl
    | none =>
      have hkept : first.Kept := by
        cases first with
        | field name => cases hfield
        | _ => exact hleads
      obtain ⟨part, hpart, hos⟩ :=
        Operand.readPart_source limit fallback (depth + 1) 1 .inSequence first (by omega) hkept
          hfirst
      have hlist := readItems_cons_ok hpart (hitems 1)
      rw [hos] at hlist
      exact readPart_operation_ok (Operator.ofToken?_symbol op) (by omega)
        (readPart_array_ok hunder hlist) rfl

theorem Operand.readPart_source (limit : Nat) (fallback : Fallback) (depth nesting : Nat)
    (position : Position) : ∀ o : Operand, depth + o.depth ≤ limit → o.Kept →
      (∀ node ∈ o.nodes, node.Obtainable) → ∃ part,
      readPart limit fallback depth nesting position o.source = .ok part ∧ part.toOperands = [o]
  | .value s, _, hkept, _ => by
    have hread := s.ofJson_toJson
    rw [show s.reread = s from hkept] at hread
    exact ⟨_, readPart_literal hread, rfl⟩
  | .field _, _, hkept, _ => absurd hkept id
  | .identifier _, _, hkept, _ => absurd hkept id
  | .nested e, hdepth, _, h =>
    ⟨_, e.readPart_source limit fallback depth nesting position hdepth h, rfl⟩

theorem Operand.readItems_sources (limit : Nat) (fallback : Fallback) (depth nesting : Nat) :
    ∀ os : List Operand, depth + Operand.depthOfList os ≤ limit → (∀ o ∈ os, o.Kept) →
      (∀ node ∈ Operand.nodesOfList os, node.Obtainable) →
      readItems limit fallback depth nesting (Operand.sources os) = .ok os
  | [], _, _, _ => readItems_nil
  | o :: os, hdepth, hkept, h => by
    rw [Operand.depthOfList] at hdepth
    obtain ⟨ho, hos⟩ := List.forall_mem_cons.mp hkept
    obtain ⟨hnodes, hnodes'⟩ := Operand.forall_nodesOfList_iff.mp h
    obtain ⟨part, hpart, hpartOperands⟩ :=
      Operand.readPart_source limit fallback depth nesting .inSequence o (by omega) ho hnodes
    have hrest := Operand.readItems_sources limit fallback depth nesting os (by omega) hos hnodes'
    rw [Operand.sources, readItems_cons_ok hpart hrest, hpartOperands]
    rfl

end

/-! ## The image -/

theorem Expression.readPayload_source {limit : Nat} {e : Expression} (fallback : Fallback)
    (hdepth : e.depth ≤ limit) (h : ∀ node ∈ e.nodes, node.Obtainable) :
    readPayload limit fallback e.source = .ok e := by
  rw [readPayload, e.readPart_source limit fallback 0 0 .root (by omega) h, Attempt.ok_bind]
  rfl

-- a field that no operand follows, which has to be put over an empty list
example : (readPayload 1 .strict (Expression.not (.field "x")).source).outcome =
    .ok (.not (.field "x")) := by rfl

section

variable {limit : Nat} {payload : Json} {e : Expression}

theorem depth_le_of_strict (h : (readPayload limit .strict payload).outcome = .ok e) :
    e.depth ≤ limit := by
  have haccepted := readPayload_succeeds_iff.mp ⟨e, h⟩
  rw [depth_readPayload h, isOperation_of_strict h]
  exact Json.operatorDepth_le_iff.mpr haccepted.1.depth

theorem obtainable_of_strict (h : (readPayload limit .strict payload).outcome = .ok e) :
    ∀ node ∈ e.nodes, node.Obtainable := by
  obtain ⟨members, part, rfl, hpart, hroot⟩ := readPayload_eq_ok.mp h
  obtain ⟨-, hnodes⟩ := obtainable_readPart hpart
  rcases hroot with ⟨-, rfl⟩ | ⟨hoperation, -⟩
  · exact Operand.forall_nodesOfList_iff.mp hnodes |>.1
  · rw [isOperation_of_strict h] at hoperation
    cases hoperation

end

/-- **An expression is read strictly from some payload exactly if it is within the limit and each of
its nodes is obtainable.** -/
theorem Expression.obtained_strict_iff (limit : Nat) (e : Expression) :
    (∃ payload, (readPayload limit .strict payload).outcome = .ok e) ↔
      e.depth ≤ limit ∧ ∀ node ∈ e.nodes, node.Obtainable := by
  refine ⟨?_, ?_⟩
  · intro h
    obtain ⟨payload, hread⟩ := h
    exact ⟨depth_le_of_strict hread, obtainable_of_strict hread⟩
  · intro h
    obtain ⟨hdepth, hnodes⟩ := h
    have hread := readPayload_source .strict hdepth hnodes
    exact ⟨e.source, congrArg Attempt.outcome hread⟩

end MailFilter
