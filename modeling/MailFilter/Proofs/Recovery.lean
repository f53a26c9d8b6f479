import MailFilter.Proofs.Reread

/-!
# The expressions that come back as they were

An expression is its own `reread` form if at every node of it nothing had to give way: there is no
identifier, a field is named in the first place only, with a name that can be a key and something
behind it to put under that key, unsigned integers are above the signed range, and floats are
finite. The condition is about each node by itself, so one operand anywhere that breaks it shows
in the result.

It makes no difference whether the two expressions are compared as data or as values compare.
-/

namespace MailFilter

/-- Nothing among the operands of an expression changes on the way through a payload. -/
structure Expression.Recoverable (node : Expression) : Prop where
  /-- No operand is an identifier. -/
  noIdentifier : ∀ name, .identifier name ∉ node.operands
  /-- A field is named in no place but the first. -/
  fieldFirst : ∀ name, .field name ∉ node.rest
  /-- If one is named there, an operand follows, and the name is a field name and no operator. -/
  fieldKey : ∀ name, node.first = .field name →
    node.rest ≠ [] ∧ isFieldName name = true ∧ Operator.ofToken? name = none
  /-- Unsigned integers are above the signed range. -/
  unsigned : ∀ u, .value (.unsigned u) ∈ node.operands → Int64.maxValue.toInt < u.toNat
  /-- Floats are finite. -/
  float : ∀ x, .value (.float x) ∈ node.operands → x.isFinite = true

/-- An operand behind the first does not change on the way through a payload, what is nested in it
apart. -/
def Operand.Kept : Operand → Prop
  | .value s => s.reread = s
  | .field _ => False
  | .identifier _ => False
  | .nested _ => True

/-- The first operand does not change on the way through a payload, what is nested in it apart. -/
def Operand.KeptFirst (rest : List Operand) : Operand → Prop
  | .field name => isFieldKey name = true ∧ rest ≠ []
  | o => o.Kept

theorem Scalar.reread_eq_iff {s : Scalar} :
    s.reread = s ↔ (∀ u, s = .unsigned u → Int64.maxValue.toInt < u.toNat) ∧
      ∀ x, s = .float x → x.isFinite = true := by
  cases s with
  | unsigned u =>
    rw [reread_unsigned_eq_iff]
    refine ⟨fun h => ⟨fun v hv => ?_, fun _ h => (nomatch h)⟩, fun h => h.1 u rfl⟩
    cases hv
    exact h
  | float x =>
    rw [reread_float_eq_iff]
    refine ⟨fun h => ⟨fun _ h => (nomatch h), fun y hy => ?_⟩, fun h => h.2 x rfl⟩
    cases hy
    exact h
  | _ => exact iff_of_true rfl ⟨fun _ h => (nomatch h), fun _ h => (nomatch h)⟩

theorem Operand.kept_iff {o : Operand} :
    o.Kept ↔ (∀ name, o ≠ .identifier name) ∧ (∀ name, o ≠ .field name) ∧
      (∀ u, o = .value (.unsigned u) → Int64.maxValue.toInt < u.toNat) ∧
      ∀ x, o = .value (.float x) → x.isFinite = true := by
  cases o with
  | value s =>
    rw [Kept, Scalar.reread_eq_iff]
    simp
  | _ => simp [Kept]

theorem Operand.forall_kept_iff {os : List Operand} :
    (∀ o ∈ os, o.Kept) ↔
      (∀ name, .identifier name ∉ os) ∧ (∀ name, .field name ∉ os) ∧
        (∀ u, .value (.unsigned u) ∈ os → Int64.maxValue.toInt < u.toNat) ∧
        ∀ x, .value (.float x) ∈ os → x.isFinite = true := by
  simp only [kept_iff]
  refine ⟨?_, ?_⟩
  · intro h
    exact ⟨fun name hmem => (h _ hmem).1 name rfl, fun name hmem => (h _ hmem).2.1 name rfl,
      fun u hmem => (h _ hmem).2.2.1 u rfl, fun x hmem => (h _ hmem).2.2.2 x rfl⟩
  · intro h o ho
    obtain ⟨hidentifier, hfield, hunsigned, hfloat⟩ := h
    exact ⟨fun name heq => hidentifier name (heq ▸ ho), fun name heq => hfield name (heq ▸ ho),
      fun u heq => hunsigned u (heq ▸ ho), fun x heq => hfloat x (heq ▸ ho)⟩

/-- The conditions on the operands of a node are one on the first, if that is no field, and one on
each other. -/
theorem Operand.forall_operands_iff (first : Operand) (rest : List Operand) :
    ((∀ name, .identifier name ∉ first :: rest) ∧ (∀ name, .field name ∉ rest) ∧
        (∀ u, .value (.unsigned u) ∈ first :: rest → Int64.maxValue.toInt < u.toNat) ∧
        ∀ x, .value (.float x) ∈ first :: rest → x.isFinite = true) ↔
      ((∀ name, first ≠ .field name) → first.Kept) ∧ ∀ o ∈ rest, o.Kept := by
  rw [forall_kept_iff, kept_iff]
  simp only [List.mem_cons, not_or, or_imp, forall_and]
  grind

/-- The condition on a node is one on its first operand and one on each other. -/
theorem Expression.recoverable_iff {op : Operator} {first : Operand} {rest : List Operand} :
    (Expression.node op first rest).Recoverable ↔
      first.KeptFirst rest ∧ ∀ o ∈ rest, o.Kept := by
  have hfirst : first.KeptFirst rest ↔ ((∀ name, first ≠ .field name) → first.Kept) ∧
      ∀ name, first = .field name →
        rest ≠ [] ∧ isFieldName name = true ∧ Operator.ofToken? name = none := by
    cases first with
    | field name => simp [Operand.KeptFirst, isFieldKey_eq_true_iff, and_comm]
    | _ => simp [Operand.KeptFirst]
  have hoperands := Operand.forall_operands_iff first rest
  rw [hfirst]
  refine ⟨fun h => ?_, fun h => ?_⟩
  · obtain ⟨hkept, hrest⟩ := hoperands.mp ⟨h.noIdentifier, h.fieldFirst, h.unsigned, h.float⟩
    exact ⟨⟨hkept, h.fieldKey⟩, hrest⟩
  · obtain ⟨⟨hkept, hkey⟩, hrest⟩ := h
    obtain ⟨hidentifier, hfield, hunsigned, hfloat⟩ := hoperands.mpr ⟨hkept, hrest⟩
    exact ⟨hidentifier, hfield, hkey, hunsigned, hfloat⟩

/-! ## Compared as data -/

theorem Operand.rereadFirst_eq_iff {first : Operand} (rest : List Operand) {P : Prop}
    (h : first.reread = first ↔ first.Kept ∧ P) (hP : ∀ name, first = .field name → P) :
    first.rereadFirst rest = first ↔ first.KeptFirst rest ∧ P := by
  rcases first.rereadFirst_cases rest with ⟨hreread, hkey⟩ | ⟨name, hreread, hkey, rfl | rfl⟩
  · rw [hreread, h]
    cases first with
    | field name =>
      -- a field that became a text is kept neither as the first operand nor as another
      refine and_congr_left fun _ => iff_of_false id fun hkept => ?_
      rw [fieldKey?_eq_some_iff.mpr ⟨.inl rfl, hkept⟩] at hkey
      cases hkey
    | _ => exact Iff.rfl
  · rw [hreread]
    exact iff_of_true rfl ⟨(fieldKey?_eq_some_iff.mp hkey).2, hP name rfl⟩
  · rw [hreread]
    exact iff_of_false (fun h => nomatch h) fun hkept => hkept.1

mutual

/-- **An expression is read back as itself exactly if each of its nodes is recoverable.** -/
theorem Expression.reread_eq_iff : ∀ e : Expression,
    e.reread = e ↔ ∀ node ∈ e.nodes, node.Recoverable
  | .node op first rest => by
    have hname : ∀ name, first = .field name → ∀ node ∈ first.nodes, node.Recoverable := by
      intro name h node hnode
      subst h
      cases hnode
    have hfirst := Operand.rereadFirst_eq_iff rest (Operand.reread_eq_iff first) hname
    rw [Expression.reread_node, Expression.node.injEq, hfirst, Operand.rereads_eq_iff rest,
      Expression.forall_nodes_iff, Expression.recoverable_iff, eq_self, true_and,
      and_and_and_comm]

theorem Operand.reread_eq_iff : ∀ o : Operand,
    o.reread = o ↔ o.Kept ∧ ∀ node ∈ o.nodes, node.Recoverable
  | .value s => by
    rw [Operand.reread, Operand.value.injEq]
    exact (and_iff_left (fun _ h => nomatch h)).symm
  | .field _ => iff_of_false (fun h => nomatch h) fun h => h.1
  | .identifier _ => iff_of_false (fun h => nomatch h) fun h => h.1
  | .nested e => by
    rw [Operand.reread, Operand.nested.injEq, e.reread_eq_iff]
    exact (and_iff_right trivial).symm

theorem Operand.rereads_eq_iff : ∀ os : List Operand,
    Operand.rereads os = os ↔
      (∀ o ∈ os, o.Kept) ∧ ∀ node ∈ Operand.nodesOfList os, node.Recoverable
  | [] => iff_of_true rfl ⟨fun _ h => (nomatch h), fun _ h => (nomatch h)⟩
  | o :: os => by
    rw [Operand.rereads, List.cons.injEq, Operand.reread_eq_iff o, Operand.rereads_eq_iff os,
      List.forall_mem_cons, Operand.forall_nodesOfList_iff, and_and_and_comm]

end

/-! ## Compared as values compare -/

mutual

theorem Expression.same_reread_iff : ∀ e : Expression, e.reread.same e = true ↔ e.reread = e
  | .node op first rest => by
    have hfirst : (first.rereadFirst rest).same first = true ↔
        first.rereadFirst rest = first := by
      rcases first.rereadFirst_cases rest with ⟨h, -⟩ | ⟨name, h, -, rfl | rfl⟩
      · rw [h, Operand.same_reread_iff first]
      · rw [h]
        exact iff_of_true (beq_self_eq_true name) rfl
      · rw [h]
        exact iff_of_false Bool.false_ne_true (fun h => nomatch h)
    rw [Expression.reread_node, Expression.same, Bool.and_eq_true, Bool.and_eq_true, hfirst,
      Operand.sameList_rereads_iff rest, Expression.node.injEq, beq_self_eq_true, eq_self, eq_self,
      true_and, true_and]

theorem Operand.same_reread_iff : ∀ o : Operand, o.reread.same o = true ↔ o.reread = o
  | .value s => by
    rw [Operand.reread, Operand.same, Operand.value.injEq, s.same_reread_iff]
  | .field _ => iff_of_false Bool.false_ne_true (fun h => nomatch h)
  | .identifier _ => iff_of_false Bool.false_ne_true (fun h => nomatch h)
  | .nested e => by
    rw [Operand.reread, Operand.same, Operand.nested.injEq, e.same_reread_iff]

theorem Operand.sameList_rereads_iff : ∀ os : List Operand,
    Operand.sameList (Operand.rereads os) os = true ↔ Operand.rereads os = os
  | [] => iff_of_true rfl rfl
  | o :: os => by
    rw [Operand.rereads, Operand.sameList, Bool.and_eq_true, Operand.same_reread_iff o,
      Operand.sameList_rereads_iff os, List.cons.injEq]

end

end MailFilter
