import MailFilter.Proofs.Limit
import MailFilter.Proofs.Obtainable
import MailFilter.Proofs.RoundTrip

/-!
# A search command of a filter that was exported and read again

A filter that was read strictly comes back from its export with one thing changed: a field that no
operand follows is a text now. Polish notation does not show that, and the search dialect does
not either, unless the field is the one of message numbers and its operator is written in
shorthand. Such a **lone range** has no bounds, `(UID :*)` or `(UID )`, and comes back as
`>= UID` or `IN UID`.

So **the command stays exactly if no node that the search dialect writes is a lone range**
(`search_of_export`). That the command changes otherwise, wherever in it the lone ranges are and
however many there are, can be told from its opening brackets: each lone range loses one, and no
other node loses or gains any.
-/

namespace MailFilter

/-! ## Lone ranges -/

/-- A range of message numbers that has no bounds. -/
def Expression.isLoneRange : Expression → Bool
  | .node op (.field name) [] => (op == .ge || op == .isIn) && name == uidField
  | _ => false

theorem Expression.isLoneRange_iff {node : Expression} : node.isLoneRange = true ↔
    node = .node .ge (.field uidField) [] ∨ node = .node .isIn (.field uidField) [] := by
  obtain ⟨op, first, rest⟩ := node
  cases first with
  | field name =>
    cases rest with
    | nil =>
      rw [isLoneRange, Bool.and_eq_true, Bool.or_eq_true, beq_iff_eq, beq_iff_eq, beq_iff_eq]
      simp only [node.injEq, Operand.field.injEq, and_true, or_and_right]
    | cons => simp [isLoneRange]
  | _ => simp [isLoneRange]

mutual

/-- The nodes of an expression that the search dialect writes, itself included. -/
def Expression.searchedNodes : Expression → List Expression
  | .node op first rest =>
    .node op first rest :: match shorthand? op first rest with
      | some .openRange => Operand.searchedNodesOfList rest
      | some .range => Operand.searchedNodesOfList rest
      | some .flag => first.searchedNodes
      | none => first.searchedNodes ++ Operand.searchedNodesOfList rest

/-- Those of an operand. -/
def Operand.searchedNodes : Operand → List Expression
  | .value _ => []
  | .field _ => []
  | .identifier _ => []
  | .nested e => e.searchedNodes

/-- Those of operands. -/
def Operand.searchedNodesOfList : List Operand → List Expression
  | [] => []
  | o :: os => o.searchedNodes ++ Operand.searchedNodesOfList os

end

/-- How many lone ranges are written. -/
def Expression.loneRanges (e : Expression) : Nat :=
  e.searchedNodes.countP isLoneRange

/-! ## Shorthands stay -/

theorem shorthand?_congr (op : Operator) {first first' : Operand} {rest rest' : List Operand}
    (hfield : first'.asField? = first.asField?) (hflag : isFlagTest rest' = isFlagTest rest) :
    shorthand? op first' rest' = shorthand? op first rest := by
  rw [shorthand?, shorthand?, hfield, hflag]

theorem isFlagTest_rereads {rest : List Operand} (hrest : ∀ o ∈ rest, o.Kept) :
    isFlagTest (Operand.rereads rest) = isFlagTest rest := by
  cases rest with
  | nil => rfl
  | cons o os =>
    have ho := hrest o List.mem_cons_self
    cases o with
    | value s =>
      have hs : s.reread = s := ho
      rw [Operand.rereads, Operand.reread, hs]
      rfl
    | field => exact absurd ho id
    | identifier => exact absurd ho id
    | nested => rfl

/-- A field that no operand follows has a shorthand in lone ranges only. -/
theorem shorthand?_lone {op : Operator} {name : String}
    (h : (Expression.node op (.field name) []).isLoneRange = false) :
    shorthand? op (.field name) [] = none := by
  cases hshort : shorthand? op (.field name) [] with
  | none => rfl
  | some form =>
    cases form with
    | openRange =>
      obtain ⟨rfl, hname⟩ := shorthand?_eq_openRange_iff.mp hshort
      rw [hname] at h
      cases h
    | range =>
      obtain ⟨rfl, hname⟩ := shorthand?_eq_range_iff.mp hshort
      rw [hname] at h
      cases h
    | flag =>
      obtain ⟨-, b, others, hrest⟩ := shorthand?_eq_flag_iff.mp hshort
      cases hrest

/-- A node that is no lone range is written in the same form after it was read again. -/
theorem shorthand?_reread {op : Operator} {first : Operand} {rest : List Operand}
    (hfirst : first.Leads) (hrest : ∀ o ∈ rest, o.Kept)
    (hlone : (Expression.node op first rest).isLoneRange = false) :
    shorthand? op (first.rereadFirst rest) (Operand.rereads rest) = shorthand? op first rest := by
  have hflag := isFlagTest_rereads hrest
  rcases first.rereadFirst_cases rest with ⟨hreread, hkey⟩ | ⟨name, hreread, hkey, rfl | rfl⟩
  · rw [hreread]
    cases first with
    | field name =>
      cases rest with
      | nil =>
        rw [shorthand?_lone hlone]
        cases op <;> rfl
      | cons o os =>
        rw [fieldKey?_eq_some_iff.mpr ⟨.inl rfl, hfirst, List.cons_ne_nil o os⟩] at hkey
        cases hkey
    | identifier name => exact absurd hfirst id
    | _ => exact shorthand?_congr op rfl hflag
  · rw [hreread]
    exact shorthand?_congr op rfl hflag
  · exact absurd hfirst id

/-! ## What happens to the text -/

/-- A text lost so many opening brackets, and is the same if it lost none. -/
structure LostBrackets (n : Nat) (after before : String) : Prop where
  count : after.toList.count '(' + n = before.toList.count '('
  eq_of_zero : n = 0 → after = before

theorem LostBrackets.refl (text : String) : LostBrackets 0 text text :=
  ⟨rfl, fun _ => rfl⟩

theorem LostBrackets.eq_iff {n : Nat} {after before : String} (h : LostBrackets n after before) :
    after = before ↔ n = 0 := by
  refine ⟨fun heq => ?_, h.eq_of_zero⟩
  have hcount := h.count
  rw [heq] at hcount
  omega

theorem LostBrackets.append {m n : Nat} {after before after' before' : String}
    (h : LostBrackets m after before) (h' : LostBrackets n after' before') :
    LostBrackets (m + n) (after ++ after') (before ++ before') where
  count := by
    have hcount := h.count
    have hcount' := h'.count
    simp only [String.toList_append, List.count_append]
    omega
  eq_of_zero := by
    intro hzero
    rw [h.eq_of_zero (by omega), h'.eq_of_zero (by omega)]

theorem LostBrackets.between {n : Nat} {after before : String} (h : LostBrackets n after before)
    (opening ending : String) :
    LostBrackets n (opening ++ after ++ ending) (opening ++ before ++ ending) := by
  have hboth := ((LostBrackets.refl opening).append h).append (.refl ending)
  rwa [Nat.zero_add, Nat.add_zero] at hboth

/-- The same for one text after the other. -/
inductive LostBracketsEach : Nat → List String → List String → Prop
  | nil : LostBracketsEach 0 [] []
  | cons {m n : Nat} {after before : String} {afters befores : List String} :
      LostBrackets m after before → LostBracketsEach n afters befores →
      LostBracketsEach (m + n) (after :: afters) (before :: befores)

theorem LostBracketsEach.intercalate (separator : String) {n : Nat} {afters befores : List String}
    (h : LostBracketsEach n afters befores) :
    LostBrackets n (separator.intercalate afters) (separator.intercalate befores) := by
  induction h with
  | nil => exact .refl _
  | cons h hs ih =>
    cases hs with
    | nil =>
      rw [String.intercalate_singleton, String.intercalate_singleton]
      exact h
    | cons h' hs' =>
      rw [String.intercalate_cons_cons, String.intercalate_cons_cons]
      exact (h.append (.refl separator)).append ih

theorem searchText_rereadFirst (first : Operand) (rest : List Operand) :
    (first.rereadFirst rest).searchText = first.reread.searchText := by
  rcases first.rereadFirst_cases rest with ⟨hreread, -⟩ | ⟨name, hreread, -, rfl | rfl⟩
  · rw [hreread]
  · rw [hreread]; rfl
  · rw [hreread]; rfl

theorem lostBrackets_of_isLoneRange {node : Expression} (h : node.isLoneRange = true) :
    LostBrackets node.loneRanges node.reread.searchText node.searchText := by
  rcases Expression.isLoneRange_iff.mp h with rfl | rfl
  · exact ⟨by decide, fun h => nomatch h⟩
  · exact ⟨by decide, fun h => nomatch h⟩

mutual

/-- **Each lone range that is written loses a bracket**, and nothing else happens to the text. -/
theorem Expression.searchText_reread : ∀ e : Expression, (∀ node ∈ e.nodes, node.Obtainable) →
    LostBrackets e.loneRanges e.reread.searchText e.searchText
  | .node op first rest, h => by
    obtain ⟨hnode, hfirst, hrest⟩ := Expression.forall_nodes_iff.mp h
    obtain ⟨hleads, hkept⟩ := Expression.obtainable_iff.mp hnode
    cases hlone : (Expression.node op first rest).isLoneRange with
    | true => exact lostBrackets_of_isLoneRange hlone
    | false =>
      have hfirst := Operand.searchText_reread first hleads hfirst
      rw [← searchText_rereadFirst first rest] at hfirst
      have hrest := Operand.searchTexts_rereads rest hkept hrest
      have hbounds := hrest.intercalate ":"
      rw [Expression.reread_node, Expression.searchText, Expression.searchText,
        shorthand?_reread hleads hkept hlone, Expression.loneRanges, Expression.searchedNodes,
        List.countP_cons_of_neg (by rw [hlone]; exact Bool.false_ne_true)]
      -- a form loses what the operands lose that it shows
      match shorthand? op first rest with
      | some .openRange => exact hbounds.between ("(" ++ uidField ++ " ") ":*)"
      | some .range => exact hbounds.between ("(" ++ uidField ++ " ") ")"
      | some .flag => exact hfirst.between "(" ")"
      | none =>
        have hwords := (LostBracketsEach.cons (.refl op.word) (.cons hfirst hrest)).intercalate " "
        rw [Nat.zero_add, ← List.countP_append] at hwords
        exact hwords

theorem Operand.searchText_reread : ∀ o : Operand, o.Leads → (∀ node ∈ o.nodes, node.Obtainable) →
    LostBrackets (o.searchedNodes.countP Expression.isLoneRange) o.reread.searchText o.searchText
  | .value s, hleads, _ => by
    have hs : s.reread = s := hleads
    rw [Operand.reread, hs]
    exact .refl _
  | .field name, _, _ => .refl name
  | .identifier name, _, _ => .refl name
  | .nested e, _, h => e.searchText_reread h

theorem Operand.searchTexts_rereads : ∀ os : List Operand, (∀ o ∈ os, o.Kept) →
    (∀ node ∈ Operand.nodesOfList os, node.Obtainable) →
    LostBracketsEach ((Operand.searchedNodesOfList os).countP Expression.isLoneRange)
      (Operand.searchTexts (Operand.rereads os)) (Operand.searchTexts os)
  | [], _, _ => .nil
  | o :: os, hkept, h => by
    obtain ⟨ho, hos⟩ := List.forall_mem_cons.mp hkept
    obtain ⟨hnodes, hnodes'⟩ := Operand.forall_nodesOfList_iff.mp h
    rw [Operand.searchedNodesOfList, List.countP_append]
    exact .cons (Operand.searchText_reread o ho.leads hnodes)
      (Operand.searchTexts_rereads os hos hnodes')

end

/-! ## The commands of a filter before and after -/

section

variable {limit : Nat} {payload : Json} {e : Expression}

theorem Expression.loneRanges_eq_zero_iff : e.loneRanges = 0 ↔
    ∀ node ∈ e.searchedNodes,
      node ≠ .node .ge (.field uidField) [] ∧ node ≠ .node .isIn (.field uidField) [] := by
  simp only [loneRanges, List.countP_eq_zero, isLoneRange_iff, not_or]

/-- **What was read strictly can be exported and read again, both can be written as commands, and
the commands are the same exactly if no node that is written is a lone range.** -/
theorem search_of_export (h : (readPayload limit .strict payload).outcome = .ok e) :
    ∃ j e' before after, e.toPayload limit = .ok j ∧
      (readPayload limit .strict j).outcome = .ok e' ∧
      e.search limit = .ok before ∧ e'.search limit = .ok after ∧
      (after = before ↔ ∀ node ∈ e.searchedNodes,
        node ≠ .node .ge (.field uidField) [] ∧ node ≠ .node .isIn (.field uidField) []) := by
  have hdepth := depth_le_of_strict h
  have hread := Expression.readPayload_payload .strict hdepth
  have hdepth' : e.reread.depth ≤ limit := by
    rw [e.depth_reread]
    exact hdepth
  refine ⟨e.payload, e.reread, e.searchText, e.reread.searchText,
    Expression.toPayload_eq_ok_iff.mpr ⟨hdepth, rfl⟩, by rw [hread]; rfl,
    Expression.search_eq_ok_iff.mpr ⟨Nat.le_trans e.searchDepth_le hdepth, rfl⟩,
    Expression.search_eq_ok_iff.mpr ⟨Nat.le_trans e.reread.searchDepth_le hdepth', rfl⟩, ?_⟩
  rw [← Expression.loneRanges_eq_zero_iff]
  exact (e.searchText_reread (obtainable_of_strict h)).eq_iff

end

/-- A range with a bound, and a field of another name that no operand follows. -/
theorem search_of_export_bound :
    ∃ e j e', (readPayload 2 .strict (.single "and" (.array [
          .single ">=" (.single "UID" (.number (.integer 7))),
          .single "not" (.single "x" (.array []))]))).outcome = .ok e ∧
      e.toPayload 2 = .ok j ∧ (readPayload 2 .strict j).outcome = .ok e' ∧
      e.search 2 = .ok "AND (UID 7:*) NOT x" ∧ e'.search 2 = .ok "AND (UID 7:*) NOT x" := by
  have haccepted : (readPayload 2 .strict (.single "and" (.array [
      .single ">=" (.single "UID" (.number (.integer 7))),
      .single "not" (.single "x" (.array []))]))).outcome =
        .ok (.and (.nested (.ge (.field "UID") (.value (.integer 7))))
          (.nested (.not (.field "x")))) := by rfl
  obtain ⟨j, e', before, after, hj, hread, hbefore, hafter, hsame⟩ := search_of_export haccepted
  obtain rfl := hsame.mpr (Expression.loneRanges_eq_zero_iff.mp (by rfl))
  have htext : (Expression.and (.nested (.ge (.field "UID") (.value (.integer 7))))
      (.nested (.not (.field "x")))).search 2 = .ok "AND (UID 7:*) NOT x" := by rfl
  obtain rfl := Except.ok.inj (hbefore.symm.trans htext)
  exact ⟨_, j, e', haccepted, hj, hread, htext, hafter⟩

/-- **The command can change**: a range without bounds is no longer written as one. -/
theorem search_changed_by_export :
    ∃ e j e', (readPayload 1 .strict (.single ">=" (.single "UID" (.array [])))).outcome = .ok e ∧
      e.toPayload 1 = .ok j ∧ (readPayload 1 .strict j).outcome = .ok e' ∧
      e.search 1 = .ok "(UID :*)" ∧ e'.search 1 = .ok ">= UID" ∧ e'.search 1 ≠ e.search 1 := by
  refine ⟨.node .ge (.field "UID") [], .single ">=" (.array [.string "UID"]),
    .node .ge (.value (.string "UID")) [], by rfl, by rfl, by rfl, by rfl, by rfl, ?_⟩
  intro h
  cases h

end MailFilter
