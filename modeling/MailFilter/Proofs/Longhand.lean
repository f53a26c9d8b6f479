import MailFilter.Proofs.Threshold
import MailFilter.Proofs.Tokens

/-!
# The search dialect where it has no shorthand

An expression in which no node has a shorthand is **written out** in the search dialect: operator
first, then the operands, as in Polish notation. Both dialects then go through the same tokens in
the same order, and both look at all of them, so they have the same limit. They part at one point
only: a connective is a symbol in the one and a keyword in the other.

To say this of the operators and of nothing else, a token has to know what it is. `preorder` lists
the tokens of an expression with the operators told from the leaves, so that a leaf that is shown
as `&&` is no connective. **Each dialect joins the tokens in its own spelling**
(`search_respells_polish`), and the spellings differ at connectives alone.
-/

namespace MailFilter

/-! ## Tokens that know what they are -/

/-- A token of an expression: the operator of a node, or a leaf with the text it is shown as. -/
inductive Token where
  | operator (op : Operator)
  | leaf (text : String)

/-- How Polish notation spells a token. -/
def Token.inPolish : Token → String
  | operator op => op.symbol
  | leaf text => text

/-- How the search dialect spells a token. -/
def Token.inSearch : Token → String
  | operator .and => "AND"
  | operator .or => "OR"
  | operator .not => "NOT"
  | operator op => op.symbol
  | leaf text => text

mutual

/-- The tokens of an expression, an operator before its operands. -/
def Expression.preorder : Expression → List Token
  | .node op first rest => .operator op :: (first.preorder ++ Operand.preorderOfList rest)

/-- The tokens of an operand; a leaf is one. -/
def Operand.preorder : Operand → List Token
  | .value scalar => [.leaf scalar.text]
  | .field name => [.leaf name]
  | .identifier name => [.leaf name]
  | .nested e => e.preorder

/-- The tokens of operands. -/
def Operand.preorderOfList : List Operand → List Token
  | [] => []
  | o :: os => o.preorder ++ Operand.preorderOfList os

end

theorem Token.inSearch_operator (op : Operator) : (operator op).inSearch = op.word := by
  cases op <;> rfl

/-- The two spellings differ at connectives alone. -/
theorem Token.inSearch_operator_of_not_logical {op : Operator} (h : op.family ≠ .logical) :
    (operator op).inSearch = (operator op).inPolish := by
  cases op with
  | and => exact absurd rfl h
  | or => exact absurd rfl h
  | not => exact absurd rfl h
  | _ => rfl

theorem Operand.preorder_ne_nil (o : Operand) : o.preorder ≠ [] := by
  cases o with
  | nested e =>
    obtain ⟨op, first, rest⟩ := e
    exact List.cons_ne_nil _ _
  | _ => exact List.cons_ne_nil _ _

/-! ## Polish notation spells the tokens -/

mutual

theorem Expression.map_inPolish_preorder : ∀ e : Expression,
    e.preorder.map Token.inPolish = e.tokens
  | .node op first rest => by
    rw [Expression.preorder, List.map_cons, List.map_append, first.map_inPolish_preorder,
      Operand.map_inPolish_preorderOfList rest, Expression.tokens, Token.inPolish]

theorem Operand.map_inPolish_preorder : ∀ o : Operand, o.preorder.map Token.inPolish = o.tokens
  | .value _ => rfl
  | .field _ => rfl
  | .identifier _ => rfl
  | .nested e => e.map_inPolish_preorder

theorem Operand.map_inPolish_preorderOfList : ∀ os : List Operand,
    (Operand.preorderOfList os).map Token.inPolish = Operand.tokensOfList os
  | [] => rfl
  | o :: os => by
    rw [Operand.preorderOfList, List.map_append, Operand.map_inPolish_preorder o,
      Operand.map_inPolish_preorderOfList os, Operand.tokensOfList]

end

/-! ## Expressions that are written out -/

/-- A node that is no range of message numbers and no flag test. -/
structure Expression.WrittenOut (node : Expression) : Prop where
  /-- The first operand of a lower bound or a membership is not the field of message numbers. -/
  noRange : node.operator = .ge ∨ node.operator = .isIn → node.first ≠ .field "UID"
  /-- The second operand of an equality is no boolean. -/
  noFlag : node.operator = .eq → ∀ b, node.rest.head? ≠ some (.value (.bool b))

theorem Expression.writtenOut_iff {node : Expression} :
    node.WrittenOut ↔ shorthand? node.operator node.first node.rest = none := by
  refine ⟨fun h => ?_, fun h => ⟨?_, ?_⟩⟩
  · cases hshort : shorthand? node.operator node.first node.rest with
    | none => rfl
    | some form =>
      cases form with
      | openRange =>
        obtain ⟨hop, hfirst⟩ := shorthand?_eq_openRange_iff.mp hshort
        exact absurd hfirst (h.noRange (.inl hop))
      | range =>
        obtain ⟨hop, hfirst⟩ := shorthand?_eq_range_iff.mp hshort
        exact absurd hfirst (h.noRange (.inr hop))
      | flag =>
        obtain ⟨hop, b, others, hrest⟩ := shorthand?_eq_flag_iff.mp hshort
        exact absurd (congrArg List.head? hrest) (h.noFlag hop b)
  · rintro (hop | hop) hfirst
    · cases h.symm.trans (shorthand?_eq_openRange_iff.mpr ⟨hop, hfirst⟩)
    · cases h.symm.trans (shorthand?_eq_range_iff.mpr ⟨hop, hfirst⟩)
  · intro hop b hhead
    obtain ⟨others, hrest⟩ := List.head?_eq_some_iff.mp hhead
    cases h.symm.trans (shorthand?_eq_flag_iff.mpr ⟨hop, b, others, hrest⟩)

instance : DecidablePred Expression.WrittenOut :=
  fun _ => decidable_of_iff _ Expression.writtenOut_iff.symm

/-- What is written out has no flag test, so nothing stands behind one. -/
theorem Expression.WrittenOut.endsWithFlag {node : Expression} (h : node.WrittenOut) :
    node.EndsWithFlag := by
  rintro first b others rfl
  exact absurd rfl (h.noFlag rfl b)

/-! ## The search dialect spells the same tokens -/

/-- Texts that were joined are joined as the lists behind them. -/
theorem intercalate_map_intercalate (separator : String) {parts : List (List String)}
    (h : ∀ part ∈ parts, part ≠ []) :
    separator.intercalate (parts.map separator.intercalate) =
      separator.intercalate parts.flatten := by
  induction parts with
  | nil => rfl
  | cons part parts ih =>
    obtain ⟨hpart, hparts⟩ := List.forall_mem_cons.mp h
    cases parts with
    | nil => rw [List.map_singleton, String.intercalate_singleton, List.flatten_singleton]
    | cons next others =>
      have hnext : (next :: others).flatten ≠ [] := by
        rw [List.flatten_cons]
        exact List.append_ne_nil_of_left_ne_nil (hparts next List.mem_cons_self) _
      have hmap : (next :: others).map separator.intercalate ≠ [] := by simp
      rw [List.map_cons, String.intercalate_cons_of_ne_nil hmap, ih hparts,
        ← String.intercalate_append_of_ne_nil hpart hnext, ← List.flatten_cons]

/-- The tokens of operands in the spelling of the search dialect, a list for each operand. -/
def Operand.spelledEach (os : List Operand) : List (List String) :=
  os.map fun o => o.preorder.map Token.inSearch

theorem Operand.ne_nil_of_mem_spelledEach {os : List Operand} :
    ∀ part ∈ Operand.spelledEach os, part ≠ [] := by
  intro part hpart
  obtain ⟨o, -, rfl⟩ := List.mem_map.mp hpart
  exact fun h => o.preorder_ne_nil (List.map_eq_nil_iff.mp h)

theorem Operand.flatten_spelledEach (os : List Operand) :
    (Operand.spelledEach os).flatten = (Operand.preorderOfList os).map Token.inSearch := by
  induction os with
  | nil => rfl
  | cons o os ih =>
    rw [Operand.preorderOfList, List.map_append, ← ih]
    rfl

mutual

/-- **What is written out is its tokens in the spelling of the search dialect**, separated by single
spaces. -/
theorem Expression.searchText_eq_intercalate : ∀ {e : Expression},
    (∀ node ∈ e.nodes, node.WrittenOut) →
      e.searchText = " ".intercalate (e.preorder.map Token.inSearch)
  | .node op first rest, h => by
    obtain ⟨hnode, hfirst, hrest⟩ := Expression.forall_nodes_iff.mp h
    have hne : ∀ part ∈ [op.word] :: Operand.spelledEach (first :: rest), part ≠ [] :=
      List.forall_mem_cons.mpr ⟨List.cons_ne_nil _ _, Operand.ne_nil_of_mem_spelledEach⟩
    have htokens : ([op.word] :: Operand.spelledEach (first :: rest)).flatten =
        (Expression.node op first rest).preorder.map Token.inSearch := by
      rw [List.flatten_cons, Operand.flatten_spelledEach, Expression.preorder, List.map_cons,
        Token.inSearch_operator]
      rfl
    have hshort : shorthand? op first rest = none := Expression.writtenOut_iff.mp hnode
    rw [Expression.searchText, hshort, Operand.searchText_eq_intercalate hfirst,
      Operand.searchTexts_eq_map hrest, ← htokens, ← intercalate_map_intercalate " " hne]
    show _ = " ".intercalate (" ".intercalate [op.word] :: _)
    rw [String.intercalate_singleton]
    rfl

theorem Operand.searchText_eq_intercalate : ∀ {o : Operand},
    (∀ node ∈ o.nodes, node.WrittenOut) →
      o.searchText = " ".intercalate (o.preorder.map Token.inSearch)
  | .value _, _ => String.intercalate_singleton.symm
  | .field _, _ => String.intercalate_singleton.symm
  | .identifier _, _ => String.intercalate_singleton.symm
  | .nested _, h => Expression.searchText_eq_intercalate h

theorem Operand.searchTexts_eq_map : ∀ {os : List Operand},
    (∀ node ∈ Operand.nodesOfList os, node.WrittenOut) →
      Operand.searchTexts os = (Operand.spelledEach os).map " ".intercalate
  | [], _ => rfl
  | _ :: _, h => by
    obtain ⟨ho, hos⟩ := Operand.forall_nodesOfList_iff.mp h
    rw [Operand.searchTexts, Operand.searchText_eq_intercalate ho, Operand.searchTexts_eq_map hos]
    rfl

end

/-! ## Operators are the operators of nodes -/

mutual

theorem Expression.exists_node_of_operator {op : Operator} : ∀ {e : Expression},
    Token.operator op ∈ e.preorder → ∃ node ∈ e.nodes, node.operator = op
  | .node op' first rest, h => by
    rw [Expression.preorder, List.mem_cons, List.mem_append] at h
    rw [Expression.nodes]
    rcases h with h | h | h
    · exact ⟨_, List.mem_cons_self, (Token.operator.inj h).symm⟩
    · obtain ⟨node, hnode, hop⟩ := Operand.exists_node_of_operator h
      exact ⟨node, List.mem_cons_of_mem _ (List.mem_append_left _ hnode), hop⟩
    · obtain ⟨node, hnode, hop⟩ := Operand.exists_node_of_operator_of_list h
      exact ⟨node, List.mem_cons_of_mem _ (List.mem_append_right _ hnode), hop⟩

theorem Operand.exists_node_of_operator {op : Operator} : ∀ {o : Operand},
    Token.operator op ∈ o.preorder → ∃ node ∈ o.nodes, node.operator = op
  | .value _, h => nomatch List.mem_singleton.mp h
  | .field _, h => nomatch List.mem_singleton.mp h
  | .identifier _, h => nomatch List.mem_singleton.mp h
  | .nested _, h => Expression.exists_node_of_operator h

theorem Operand.exists_node_of_operator_of_list {op : Operator} : ∀ {os : List Operand},
    Token.operator op ∈ Operand.preorderOfList os →
      ∃ node ∈ Operand.nodesOfList os, node.operator = op
  | o :: os, h => by
    rw [Operand.preorderOfList, List.mem_append] at h
    rw [Operand.nodesOfList]
    rcases h with h | h
    · obtain ⟨node, hnode, hop⟩ := Operand.exists_node_of_operator h
      exact ⟨node, List.mem_append_left _ hnode, hop⟩
    · obtain ⟨node, hnode, hop⟩ := Operand.exists_node_of_operator_of_list h
      exact ⟨node, List.mem_append_right _ hnode, hop⟩

end

/-- Without a connective the spellings do not differ. -/
theorem Expression.map_inSearch_preorder {e : Expression}
    (h : ∀ node ∈ e.nodes, node.family ≠ .logical) :
    e.preorder.map Token.inSearch = e.preorder.map Token.inPolish := by
  refine List.map_congr_left fun token htoken => ?_
  cases token with
  | leaf text => rfl
  | operator op =>
    obtain ⟨node, hnode, rfl⟩ := Expression.exists_node_of_operator htoken
    exact Token.inSearch_operator_of_not_logical (h node hnode)

/-! ## One dialect in the spelling of the other -/

/-- **Where there is no shorthand, the search dialect is Polish notation with keywords.** Under
every limit both dialects write the expression or both refuse it for the same reason, and what they
write are the same tokens, each in its own spelling; without connectives it is the same text. -/
theorem search_respells_polish {e : Expression} (h : ∀ node ∈ e.nodes, node.WrittenOut)
    (limit : Nat) :
    e.polish limit =
        (if e.depth ≤ limit then .ok (" ".intercalate (e.preorder.map Token.inPolish))
          else .error (.depthExceeded limit)) ∧
      e.search limit =
        (if e.depth ≤ limit then .ok (" ".intercalate (e.preorder.map Token.inSearch))
          else .error (.depthExceeded limit)) ∧
      ((∀ node ∈ e.nodes, node.family ≠ .logical) → e.search limit = e.polish limit) := by
  have htext : e.text = " ".intercalate (e.preorder.map Token.inPolish) := by
    rw [e.text_eq_intercalate, e.map_inPolish_preorder]
  -- nothing is trimmed, so the search dialect looks at all there is
  have hdepth : e.searchDepth = e.depth := by
    rw [← e.depth_trimmed, e.trimmed_eq_iff.mpr fun node hnode => (h node hnode).endsWithFlag]
  have hpolish := e.polish_eq limit
  have hsearch := e.search_eq limit
  rw [htext, withinDepth_ok_eq_ite] at hpolish
  rw [Expression.searchText_eq_intercalate h, hdepth, withinDepth_ok_eq_ite] at hsearch
  refine ⟨hpolish, hsearch, fun hlogical => ?_⟩
  rw [hsearch, hpolish, Expression.map_inSearch_preorder hlogical]

/-- A negation beside a literal that is shown as a connective: the literal stays as it is, and one
level is missing under a limit of two. A membership that no message number is tested for has no
connective. -/
theorem search_respells_polish_not_beside_symbol :
    ∃ e e' : Expression,
      e = .and (.nested (.not (.nested (.gt (.field "UID") (.value (.integer 10))))))
        (.value (.string "&&")) ∧
      e' = .isIn (.field "uid") [.value (.bool true), .identifier "IN"] ∧
      (∀ node ∈ e.nodes, node.WrittenOut) ∧ (∀ node ∈ e'.nodes, node.WrittenOut) ∧
      (∀ node ∈ e'.nodes, node.family ≠ .logical) ∧
      e.polish 3 = .ok "&& ! > UID 10 &&" ∧ e.search 3 = .ok "AND NOT > UID 10 &&" ∧
      e.polish 2 = .error (.depthExceeded 2) ∧ e.search 2 = .error (.depthExceeded 2) ∧
      e'.search 1 = e'.polish 1 := by
  have hwritten : ∀ node ∈ (Expression.and (.nested (.not (.nested (.gt (.field "UID")
      (.value (.integer 10)))))) (.value (.string "&&"))).nodes, node.WrittenOut := by decide
  obtain ⟨hpolish, hsearch, -⟩ := search_respells_polish hwritten 3
  obtain ⟨hpolish', hsearch', -⟩ := search_respells_polish hwritten 2
  have hmembership : ∀ node ∈ (Expression.isIn (.field "uid")
      [.value (.bool true), .identifier "IN"]).nodes, node.WrittenOut := by decide
  refine ⟨_, _, rfl, rfl, hwritten, hmembership, by decide, hpolish.trans (by rfl),
    hsearch.trans (by rfl), hpolish'.trans (by rfl), hsearch'.trans (by rfl), ?_⟩
  exact (search_respells_polish hmembership 1).2.2 (by decide)

end MailFilter
