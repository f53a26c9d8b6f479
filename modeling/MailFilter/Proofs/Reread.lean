import MailFilter.Payload.Export
import MailFilter.Proofs.Nodes

/-!
# What becomes of an expression on its way through a payload

A payload has no names apart from the keys of fields, no unsigned integers in the signed range and
no floats that are not finite. An expression that went through a payload therefore comes back as
its `reread` form: a name that could become a key is the name of a field, any other name is a
text, a small unsigned integer is a signed one, and a float that is not finite is null.

Everything that is lost is lost at the leaves. The outline and the depth stay, and so does the
text, with one exception: null shows as nothing, so the text of an expression comes back
**exactly if no float in it is infinite or no number** (`Expression.text_reread`).
-/

namespace MailFilter

/-! ## Floats -/

theorem isFinite_eq_true_iff (x : Float) :
    x.isFinite = true ↔ ¬ (x.isNaN = true ∨ x.isInf = true) := by
  show x.toModel.unpack.isFinite = true ↔
    ¬ (x.toModel.unpack.isNaN = true ∨ x.toModel.unpack.isInf = true)
  cases x.toModel.unpack with
  | infinity sign => exact iff_of_false Bool.false_ne_true fun h => h (.inr rfl)
  | notANumber => exact iff_of_false Bool.false_ne_true fun h => h (.inl rfl)
  | zero sign => exact iff_of_true rfl fun h => h.elim Bool.false_ne_true Bool.false_ne_true
  | finite sign m e hm =>
    exact iff_of_true rfl fun h => h.elim Bool.false_ne_true Bool.false_ne_true

theorem beq_self_of_isFinite {x : Float} (h : x.isFinite = true) : (x == x) = true := by
  replace h : x.toModel.unpack.isFinite = true := h
  show x.toModel.unpack.beq x.toModel.unpack = true
  generalize x.toModel.unpack = u at h
  cases u with
  | infinity => cases h
  | notANumber => cases h
  | zero => rfl
  | finite sign m e hm =>
    have hself : (compare e e).then (compare m m) = .eq := by
      rw [Std.compare_self, Std.compare_self]
      rfl
    cases sign with
    | positive =>
      show (some ((compare e e).then (compare m m)) == some .eq) = true
      rw [hself]
      rfl
    | negative =>
      show (some ((compare e e).then (compare m m)).swap == some .eq) = true
      rw [hself]
      rfl

/-- A float that is not finite is shown as some word. -/
theorem length_shown_pos {x : Float} (h : x.isFinite = false) :
    0 < (Decimal.shown x).length := by
  unfold Decimal.shown
  cases hnan : x.isNaN with
  | true =>
    rw [if_pos rfl]
    decide
  | false =>
    have hinf : x.isInf = true := by
      cases hinf : x.isInf with
      | true => rfl
      | false =>
        have hfinite := (isFinite_eq_true_iff x).mpr fun hor => by
          rcases hor with h' | h'
          · exact Bool.false_ne_true (hnan.symm.trans h')
          · exact Bool.false_ne_true (hinf.symm.trans h')
        exact absurd (h.symm.trans hfinite) Bool.false_ne_true
    rw [if_neg Bool.false_ne_true]
    simp only [hinf, if_true, String.length_append]
    exact Nat.lt_of_lt_of_le (by decide : 0 < "inf".length) (Nat.le_add_left _ _)

/-! ## Scalars -/

/-- What a scalar is read back as. -/
def Scalar.reread : Scalar → Scalar
  | .unsigned u => ofUInt64 u
  | .float x => if x.isFinite = true then .float x else .null
  | .null => .null
  | .bool b => .bool b
  | .integer i => .integer i
  | .string s => .string s

theorem Scalar.ofJson_toJson (s : Scalar) : Scalar.ofJson s.toJson = .ok s.reread := by
  cases s with
  | unsigned u =>
    show Except.ok (ofNumber (Json.Number.ofUInt64 u)) = .ok (ofUInt64 u)
    unfold Json.Number.ofUInt64 ofUInt64
    split <;> rfl
  | float x =>
    show Scalar.ofJson ((Json.Number.ofFloat? x).elim .null .number) =
      .ok (if x.isFinite = true then .float x else .null)
    unfold Json.Number.ofFloat?
    split <;> rfl
  | _ => rfl

theorem Scalar.text_ofUInt64 (u : UInt64) : (ofUInt64 u).text = (unsigned u).text := by
  unfold ofUInt64
  split
  · rfl
  · rename_i h
    show toString u.toInt64.toInt = toString u.toNat
    rw [toInt_toInt64 (Nat.not_le.mp h)]
    rfl

theorem Scalar.reread_unsigned_eq_iff {u : UInt64} :
    (unsigned u).reread = unsigned u ↔ Int64.maxValue.toInt < u.toNat := by
  show ofUInt64 u = unsigned u ↔ _
  have hmax : Int64.maxValue.toInt < u.toNat ↔ Decimal.signedEnd ≤ u.toNat := by
    rw [Int64.toInt_maxValue]
    simp only [Decimal.signedEnd]
    omega
  rw [hmax, ofUInt64]
  split
  · rename_i h
    exact iff_of_true rfl h
  · rename_i h
    exact iff_of_false (fun h => nomatch h) h

theorem Scalar.reread_float_eq_iff {x : Float} :
    (float x).reread = float x ↔ x.isFinite = true := by
  rw [reread]
  cases x.isFinite with
  | true => exact iff_of_true rfl rfl
  | false => exact iff_of_false (fun h => nomatch h) Bool.false_ne_true

/-- Compared as values compare, a scalar is the one it is read back as in the same cases. -/
theorem Scalar.same_reread_iff (s : Scalar) : s.reread.same s = true ↔ s.reread = s := by
  cases s with
  | unsigned u =>
    show (ofUInt64 u).same (unsigned u) = true ↔ ofUInt64 u = unsigned u
    unfold ofUInt64
    split
    · exact iff_of_true (beq_self_eq_true u) rfl
    · exact iff_of_false Bool.false_ne_true (fun h => nomatch h)
  | float x =>
    rw [reread]
    cases hx : x.isFinite with
    | true => exact iff_of_true (beq_self_of_isFinite hx) rfl
    | false => exact iff_of_false Bool.false_ne_true (fun h => nomatch h)
  | null => exact iff_of_true rfl rfl
  | bool b => exact iff_of_true (beq_self_eq_true b) rfl
  | integer i => exact iff_of_true (beq_self_eq_true i) rfl
  | string t => exact iff_of_true (beq_self_eq_true t) rfl

/-! ## Expressions -/

mutual

/-- What an expression is read back as. -/
def Expression.reread : Expression → Expression
  | .node op first rest =>
    match fieldKey? first rest with
    | some name => .node op (.field name) (Operand.rereads rest)
    | none => .node op first.reread (Operand.rereads rest)

/-- What an operand is read back as that does not become a key. -/
def Operand.reread : Operand → Operand
  | .value scalar => .value scalar.reread
  | .field name => .value (.string name)
  | .identifier name => .value (.string name)
  | .nested e => .nested e.reread

/-- What operands are read back as. -/
def Operand.rereads : List Operand → List Operand
  | [] => []
  | o :: os => o.reread :: Operand.rereads os

end

/-- What the first operand is read back as. -/
def Operand.rereadFirst (first : Operand) (rest : List Operand) : Operand :=
  match fieldKey? first rest with
  | some name => .field name
  | none => first.reread

theorem Expression.reread_node (op : Operator) (first : Operand) (rest : List Operand) :
    (Expression.node op first rest).reread =
      .node op (first.rereadFirst rest) (Operand.rereads rest) := by
  rw [Expression.reread, Operand.rereadFirst]
  cases fieldKey? first rest <;> rfl

/-- The first operand is read back as any other, or it is a name and is read back as a field. -/
theorem Operand.rereadFirst_cases (first : Operand) (rest : List Operand) :
    first.rereadFirst rest = first.reread ∧ fieldKey? first rest = none ∨
      ∃ name, first.rereadFirst rest = .field name ∧ fieldKey? first rest = some name ∧
        (first = .field name ∨ first = .identifier name) := by
  rw [Operand.rereadFirst]
  cases hkey : fieldKey? first rest with
  | none => exact .inl ⟨rfl, rfl⟩
  | some name => exact .inr ⟨name, rfl, rfl, (fieldKey?_eq_some_iff.mp hkey).1⟩

/-- What stays on the way through a payload, and does not tell an identifier from a field, stays for
the first operand. -/
theorem Operand.congr_rereadFirst {α : Type} {first : Operand} {f : Operand → α}
    (hnames : ∀ name, f (.field name) = f (.identifier name)) (h : f first.reread = f first)
    (rest : List Operand) : f (first.rereadFirst rest) = f first := by
  rcases first.rereadFirst_cases rest with ⟨hreread, -⟩ | ⟨name, hreread, -, rfl | rfl⟩
  · rw [hreread, h]
  · rw [hreread]
  · rw [hreread, hnames]

/-! ## Depth and outline stay -/

mutual

theorem Expression.depth_reread : ∀ e : Expression, e.reread.depth = e.depth
  | .node op first rest => by
    have hfirst : (first.rereadFirst rest).depth = first.depth :=
      Operand.congr_rereadFirst (fun _ => rfl) (Operand.depth_reread first) rest
    rw [Expression.reread_node, Expression.depth, Expression.depth, hfirst,
      Operand.depthOfList_rereads rest]

theorem Operand.depth_reread : ∀ o : Operand, o.reread.depth = o.depth
  | .value _ => rfl
  | .field _ => rfl
  | .identifier _ => rfl
  | .nested e => by
    rw [Operand.reread, Operand.depth, Operand.depth, e.depth_reread]

theorem Operand.depthOfList_rereads :
    ∀ os : List Operand, Operand.depthOfList (Operand.rereads os) = Operand.depthOfList os
  | [] => rfl
  | o :: os => by
    rw [Operand.rereads, Operand.depthOfList, Operand.depthOfList, Operand.depth_reread o,
      Operand.depthOfList_rereads os]

end

mutual

theorem Expression.outline_reread : ∀ e : Expression, e.reread.outline = e.outline
  | .node op first rest => by
    have hfirst : (first.rereadFirst rest).outline = first.outline :=
      Operand.congr_rereadFirst (fun _ => rfl) (Operand.outline_reread first) rest
    rw [Expression.reread_node, Expression.outline, Expression.outline, hfirst,
      Operand.outlines_rereads rest]

theorem Operand.outline_reread : ∀ o : Operand, o.reread.outline = o.outline
  | .value _ => rfl
  | .field _ => rfl
  | .identifier _ => rfl
  | .nested e => by
    rw [Operand.reread, Operand.outline, Operand.outline, e.outline_reread]

theorem Operand.outlines_rereads :
    ∀ os : List Operand, Operand.outlines (Operand.rereads os) = Operand.outlines os
  | [] => rfl
  | o :: os => by
    rw [Operand.rereads, Operand.outlines, Operand.outlines, Operand.outline_reread o,
      Operand.outlines_rereads os]

end

/-! ## When the text stays -/

/-- A text is kept if the condition holds, and becomes shorter if it does not. -/
def TextKept (condition : Prop) (after before : String) : Prop :=
  after = before ∧ condition ∨ after.length < before.length ∧ ¬ condition

theorem TextKept.refl {condition : Prop} (h : condition) (text : String) :
    TextKept condition text text :=
  .inl ⟨rfl, h⟩

theorem TextKept.eq_iff {condition : Prop} {after before : String}
    (h : TextKept condition after before) : after = before ↔ condition := by
  rcases h with ⟨rfl, h⟩ | ⟨hlt, h⟩
  · exact iff_of_true rfl h
  · refine iff_of_false ?_ h
    intro h
    subst h
    exact Nat.lt_irrefl _ hlt

theorem TextKept.congr {p q : Prop} {after before : String} (h : TextKept p after before)
    (hpq : p ↔ q) : TextKept q after before := by
  rw [TextKept, ← hpq]
  exact h

theorem TextKept.append {p q : Prop} {after before after' before' : String}
    (h : TextKept p after before) (h' : TextKept q after' before') :
    TextKept (p ∧ q) (after ++ after') (before ++ before') := by
  rcases h with ⟨rfl, hp⟩ | ⟨hlt, hp⟩
  · rcases h' with ⟨rfl, hq⟩ | ⟨hlt', hq⟩
    · exact .inl ⟨rfl, hp, hq⟩
    · refine .inr ⟨?_, fun h => hq h.2⟩
      rw [String.length_append, String.length_append]
      omega
  · refine .inr ⟨?_, fun h => hp h.1⟩
    have hle : after'.length ≤ before'.length := by
      rcases h' with ⟨rfl, -⟩ | ⟨hlt', -⟩
      · exact Nat.le_refl _
      · exact Nat.le_of_lt hlt'
    rw [String.length_append, String.length_append]
    omega

theorem Scalar.text_reread (s : Scalar) :
    TextKept (∀ x, s = .float x → x.isFinite = true) s.reread.text s.text := by
  cases s with
  | unsigned u => exact .inl ⟨text_ofUInt64 u, fun _ h => (nomatch h)⟩
  | float x =>
    rw [reread]
    cases hx : x.isFinite with
    | true => exact .inl ⟨rfl, fun y hy => Scalar.float.inj hy ▸ hx⟩
    | false =>
      -- null shows as nothing, and the float was shown as something
      refine .inr ⟨length_shown_pos hx, fun h => ?_⟩
      rw [h x rfl] at hx
      cases hx
  | null => exact .refl (fun _ h => nomatch h) _
  | bool b => exact .refl (fun _ h => nomatch h) _
  | integer i => exact .refl (fun _ h => nomatch h) _
  | string t => exact .refl (fun _ h => nomatch h) _

/-- Among the operands of an expression there is no float that is infinite or no number. -/
def Expression.FloatsFinite (node : Expression) : Prop :=
  ∀ x, .value (.float x) ∈ node.operands → x.isFinite = true

/-- An operand is no such float, and there is none within it. -/
def Operand.FloatsFinite (o : Operand) : Prop :=
  (∀ x, o = .value (.float x) → x.isFinite = true) ∧ ∀ node ∈ o.nodes, node.FloatsFinite

theorem Operand.floatsFinite_field (name : String) : (Operand.field name).FloatsFinite :=
  ⟨fun _ h => (nomatch h), fun _ h => (nomatch h)⟩

theorem Operand.floatsFinite_identifier (name : String) :
    (Operand.identifier name).FloatsFinite :=
  ⟨fun _ h => (nomatch h), fun _ h => (nomatch h)⟩

theorem Operand.floatsFinite_value_iff {s : Scalar} :
    (Operand.value s).FloatsFinite ↔ ∀ x, s = .float x → x.isFinite = true := by
  refine ⟨fun h x hs => h.1 x (hs ▸ rfl), fun h => ⟨fun x hs => ?_, fun _ hnode => (nomatch hnode)⟩⟩
  exact h x (Operand.value.inj hs)

theorem Operand.floatsFinite_nested_iff {e : Expression} :
    (Operand.nested e).FloatsFinite ↔ ∀ node ∈ e.nodes, node.FloatsFinite :=
  ⟨fun h => h.2, fun h => ⟨fun _ hs => (nomatch hs), h⟩⟩

theorem Operand.floatsFinite_cons_iff {o : Operand} {os : List Operand} :
    ((∀ x, .value (.float x) ∈ o :: os → x.isFinite = true) ∧
        ∀ node ∈ Operand.nodesOfList (o :: os), node.FloatsFinite) ↔
      o.FloatsFinite ∧ (∀ x, .value (.float x) ∈ os → x.isFinite = true) ∧
        ∀ node ∈ Operand.nodesOfList os, node.FloatsFinite := by
  rw [Operand.forall_nodesOfList_iff, Operand.FloatsFinite]
  simp only [List.mem_cons, or_imp, forall_and, eq_comm]
  exact and_and_and_comm

mutual

theorem Expression.text_reread : ∀ e : Expression,
    TextKept (∀ node ∈ e.nodes, node.FloatsFinite) e.reread.text e.text
  | .node op first rest => by
    have hfirst : TextKept first.FloatsFinite (first.rereadFirst rest).text first.text := by
      rcases first.rereadFirst_cases rest with ⟨h, -⟩ | ⟨name, h, -, rfl | rfl⟩
      · rw [h]
        exact Operand.text_reread first
      · rw [h]
        exact .refl (Operand.floatsFinite_field name) name
      · rw [h]
        exact .refl (Operand.floatsFinite_identifier name) name
    have hrest := Operand.textOfList_rereads rest
    rw [Expression.reread_node, Expression.text, Expression.text]
    refine (((TextKept.refl trivial (op.symbol ++ " ")).append hfirst).append hrest).congr ?_
    rw [true_and, ← Operand.floatsFinite_cons_iff, Expression.nodes, List.forall_mem_cons]
    rfl

theorem Operand.text_reread : ∀ o : Operand, TextKept o.FloatsFinite o.reread.text o.text
  | .value s => (Scalar.text_reread s).congr Operand.floatsFinite_value_iff.symm
  | .field name => .refl (Operand.floatsFinite_field name) name
  | .identifier name => .refl (Operand.floatsFinite_identifier name) name
  | .nested e => e.text_reread.congr Operand.floatsFinite_nested_iff.symm

theorem Operand.textOfList_rereads : ∀ os : List Operand,
    TextKept ((∀ x, .value (.float x) ∈ os → x.isFinite = true) ∧
      ∀ node ∈ Operand.nodesOfList os, node.FloatsFinite)
      (Operand.textOfList (Operand.rereads os)) (Operand.textOfList os)
  | [] => .refl ⟨fun _ h => (nomatch h), fun _ h => (nomatch h)⟩ ""
  | o :: os => by
    have ho := Operand.text_reread o
    have hos := Operand.textOfList_rereads os
    rw [Operand.rereads, Operand.textOfList, Operand.textOfList]
    refine (((TextKept.refl trivial " ").append ho).append hos).congr ?_
    rw [true_and, Operand.floatsFinite_cons_iff]

end

end MailFilter
