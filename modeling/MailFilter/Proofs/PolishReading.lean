import MailFilter.Proofs.Built
import MailFilter.Proofs.Limit
import MailFilter.Proofs.Tokens

/-!
# Polish notation stands for one expression

Polish notation has no brackets, so where the operands of an operator end is told by nothing but
the operator: two operands belong to a comparison, to `and` and to `or`, and one belongs to `not`.
That is enough. If leaves are shown as single tokens and not as symbols, **the tokens of an
expression are the start of no other token list of the kind**, whatever follows them
(`Expression.shown_eq_of_tokens_append`): the first token says which operator is at the root, the
operator how many operands follow, and each operand ends where its own tokens end.

The text gives the tokens back when it is split at its spaces. So two expressions with the same
text are the same, but for whether a leaf is a literal or a name. Nothing is needed for leaves that
show as nothing: two spaces in a row have an empty token between them.
-/

namespace MailFilter

/-! ## Expressions of fixed arity -/

/-- A leaf that is shown as one token, which is no symbol. -/
structure Operand.OneToken (o : Operand) : Prop where
  /-- Nothing is nested in it. -/
  leaf : o.asNested? = none
  /-- No space divides its text. -/
  noSpace : ' ' ∉ o.text.toList
  /-- Its text is the symbol of no operator. -/
  noSymbol : ∀ op : Operator, o.text ≠ op.symbol

/-- Built from leaves of one token, without memberships. -/
abbrev Expression.FixedArity (e : Expression) : Prop :=
  e.Built Operand.OneToken fun _ => False

/-- A leaf of one token or an expression of fixed arity. -/
abbrev Operand.FixedArity (o : Operand) : Prop :=
  o.Built Operand.OneToken fun _ => False

/-- How many operands follow the first. -/
def Operator.further : Operator → Nat
  | .not => 0
  | _ => 1

theorem Operator.further_of_ne {op : Operator} (h : op ≠ .not) : op.further = 1 := by
  cases op with
  | not => exact absurd rfl h
  | _ => rfl

/-- Every operand of an expression of fixed arity is of fixed arity, and the operator tells how many
there are. -/
theorem Expression.FixedArity.operands {op : Operator} {first : Operand} {rest : List Operand}
    (h : (Expression.node op first rest).FixedArity) :
    first.FixedArity ∧ (∀ o ∈ rest, o.FixedArity) ∧ rest.length = op.further := by
  cases h.arranged with
  | binary hnot _ ha hb =>
    exact ⟨ha, List.forall_mem_singleton.mpr hb, (Operator.further_of_ne hnot).symm⟩
  | unary ha => exact ⟨ha, List.forall_mem_nil _, rfl⟩
  | membership hsubject => exact hsubject.elim

theorem Operand.OneToken.tokens_eq {o : Operand} (h : o.OneToken) : o.tokens = [o.text] := by
  cases o with
  | nested e => exact nomatch h.leaf
  | _ => rfl

theorem Operand.OneToken.shown_eq {o : Operand} (h : o.OneToken) :
    o.shown = .value (.string o.text) := by
  cases o with
  | nested e => exact nomatch h.leaf
  | _ => rfl

theorem Operand.FixedArity.of_nested {e : Expression} (h : (Operand.nested e).FixedArity) :
    e.FixedArity := by
  cases h with
  | leaf hleaf => exact nomatch hleaf.leaf
  | nested he => exact he

theorem Operand.FixedArity.of_leaf {o : Operand} (h : o.FixedArity) (hleaf : o.asNested? = none) :
    o.OneToken := by
  cases h with
  | leaf h => exact h
  | nested he => exact nomatch hleaf

/-! ## Where the tokens of an expression end -/

theorem Operator.symbol_inj {op op' : Operator} (h : op.symbol = op'.symbol) : op = op' := by
  have hsome : some op = some op' := by
    rw [← ofToken?_symbol op, h, ofToken?_symbol op']
  exact Option.some.inj hsome

/-- A leaf is not mistaken for the start of an expression. -/
theorem Operand.OneToken.tokens_append_ne {o : Operand} (h : o.OneToken) (e : Expression)
    (after after' : List String) : o.tokens ++ after ≠ e.tokens ++ after' := by
  obtain ⟨op, first, rest⟩ := e
  rw [h.tokens_eq, Expression.tokens, List.singleton_append, List.cons_append]
  intro heq
  exact h.noSymbol op (List.cons.inj heq).1

/-- A leaf ends with its own token, and so does what starts alike. -/
theorem Operand.OneToken.shown_eq_of_tokens_append {o o' : Operand} {after after' : List String}
    (ho : o.OneToken) (ho' : o'.FixedArity) (h : o.tokens ++ after = o'.tokens ++ after') :
    o.shown = o'.shown ∧ after = after' := by
  cases ho' with
  | leaf hleaf =>
    rw [ho.tokens_eq, hleaf.tokens_eq, List.singleton_append, List.singleton_append,
      List.cons.injEq] at h
    rw [ho.shown_eq, hleaf.shown_eq, h.1]
    exact ⟨rfl, h.2⟩
  | nested => exact absurd h (ho.tokens_append_ne _ after after')

mutual

/-- **The tokens of an expression tell the expression and where they end.** -/
theorem Expression.shown_eq_of_tokens_append : ∀ {e e' : Expression} {after after' : List String},
    e.FixedArity → e'.FixedArity → e.tokens ++ after = e'.tokens ++ after' →
      e.shown = e'.shown ∧ after = after'
  | .node op first rest, .node op' first' rest', after, after', he, he', h => by
    obtain ⟨hfirst, hrest, hlength⟩ := he.operands
    obtain ⟨hfirst', hrest', hlength'⟩ := he'.operands
    rw [Expression.tokens, Expression.tokens, List.cons_append, List.cons_append,
      List.append_assoc, List.append_assoc, List.cons.injEq] at h
    obtain ⟨hsymbol, htokens⟩ := h
    -- the same operator has as many operands on both sides
    obtain rfl := Operator.symbol_inj hsymbol
    obtain ⟨hshown, htokens⟩ := Operand.shown_eq_of_tokens_append hfirst hfirst' htokens
    obtain ⟨hshowns, hafter⟩ := Operand.shownList_eq_of_tokens_append
      (hlength.trans hlength'.symm) hrest hrest' htokens
    rw [Expression.shown, Expression.shown, hshown, hshowns]
    exact ⟨rfl, hafter⟩

theorem Operand.shown_eq_of_tokens_append : ∀ {o o' : Operand} {after after' : List String},
    o.FixedArity → o'.FixedArity → o.tokens ++ after = o'.tokens ++ after' →
      o.shown = o'.shown ∧ after = after'
  | .value _, _, _, _, ho, ho', h => (ho.of_leaf rfl).shown_eq_of_tokens_append ho' h
  | .field _, _, _, _, ho, ho', h => (ho.of_leaf rfl).shown_eq_of_tokens_append ho' h
  | .identifier _, _, _, _, ho, ho', h => (ho.of_leaf rfl).shown_eq_of_tokens_append ho' h
  | .nested e, _, after, after', ho, ho', h => by
    cases ho' with
    | leaf hleaf => exact absurd h.symm (hleaf.tokens_append_ne e after' after)
    | nested he' =>
      obtain ⟨hshown, hafter⟩ := Expression.shown_eq_of_tokens_append ho.of_nested he' h
      rw [Operand.shown, Operand.shown, hshown]
      exact ⟨rfl, hafter⟩

theorem Operand.shownList_eq_of_tokens_append :
    ∀ {os os' : List Operand} {after after' : List String}, os.length = os'.length →
      (∀ o ∈ os, o.FixedArity) → (∀ o ∈ os', o.FixedArity) →
      Operand.tokensOfList os ++ after = Operand.tokensOfList os' ++ after' →
        Operand.shownList os = Operand.shownList os' ∧ after = after'
  | [], [], _, _, _, _, _, h => ⟨rfl, h⟩
  | o :: os, o' :: os', after, after', hlength, hos, hos', h => by
    obtain ⟨ho, hos⟩ := List.forall_mem_cons.mp hos
    obtain ⟨ho', hos'⟩ := List.forall_mem_cons.mp hos'
    rw [Operand.tokensOfList, Operand.tokensOfList, List.append_assoc, List.append_assoc] at h
    obtain ⟨hshown, htokens⟩ := Operand.shown_eq_of_tokens_append ho ho' h
    obtain ⟨hshowns, hafter⟩ := Operand.shownList_eq_of_tokens_append
      (Nat.succ.inj hlength) hos hos' htokens
    rw [Operand.shownList, Operand.shownList, hshown, hshowns]
    exact ⟨rfl, hafter⟩

end

/-! ## The tokens of a text -/

theorem Operator.space_notMem_symbol (op : Operator) : ' ' ∉ op.symbol.toList := by
  cases op <;> decide

mutual

theorem Expression.FixedArity.noSpace : ∀ {e : Expression}, e.FixedArity →
    ∀ token ∈ e.tokens, ' ' ∉ token.toList
  | .node op first rest, he => by
    obtain ⟨hfirst, hrest, -⟩ := he.operands
    rw [Expression.tokens, List.forall_mem_cons, List.forall_mem_append]
    exact ⟨op.space_notMem_symbol, Operand.FixedArity.noSpace hfirst,
      Operand.noSpace_tokensOfList hrest⟩

theorem Operand.FixedArity.noSpace : ∀ {o : Operand}, o.FixedArity →
    ∀ token ∈ o.tokens, ' ' ∉ token.toList
  | .value _, ho => List.forall_mem_singleton.mpr (ho.of_leaf rfl).noSpace
  | .field _, ho => List.forall_mem_singleton.mpr (ho.of_leaf rfl).noSpace
  | .identifier _, ho => List.forall_mem_singleton.mpr (ho.of_leaf rfl).noSpace
  | .nested _, ho => Expression.FixedArity.noSpace ho.of_nested

theorem Operand.noSpace_tokensOfList : ∀ {os : List Operand}, (∀ o ∈ os, o.FixedArity) →
    ∀ token ∈ Operand.tokensOfList os, ' ' ∉ token.toList
  | [], _ => List.forall_mem_nil _
  | _ :: _, hos => by
    obtain ⟨ho, hos⟩ := List.forall_mem_cons.mp hos
    rw [Operand.tokensOfList, List.forall_mem_append]
    exact ⟨Operand.FixedArity.noSpace ho, Operand.noSpace_tokensOfList hos⟩

end

/-- The text of an expression of fixed arity is split at its spaces into the tokens. -/
theorem Expression.FixedArity.split_text {e : Expression} (he : e.FixedArity) :
    (e.text.split ' ').toList.map (·.copy) = e.tokens := by
  have hne : e.tokens ≠ [] := (Operand.nested e).tokens_ne_nil
  rw [e.text_eq_intercalate]
  have hsplit := String.toList_split_intercalate he.noSpace
  rw [if_neg hne] at hsplit
  exact hsplit

/-! ## Unique reading -/

/-- **Expressions of fixed arity that have the same text in Polish notation are the same**, but for
the kinds of their leaves: they have the same shape and operators, and leaves at the same place are
shown alike. -/
theorem shown_eq_of_polish {limit limit' : Nat} {e e' : Expression} {text : String}
    (he : e.FixedArity) (he' : e'.FixedArity) (h : e.polish limit = .ok text)
    (h' : e'.polish limit' = .ok text) : e.shown = e'.shown := by
  have htext : e.text = e'.text :=
    (Expression.polish_eq_ok_iff.mp h).2.symm.trans (Expression.polish_eq_ok_iff.mp h').2
  have htokens : e.tokens = e'.tokens := by
    rw [← he.split_text, ← he'.split_text, htext]
  have happend : e.tokens ++ [] = e'.tokens ++ [] := by rw [htokens]
  exact (Expression.shown_eq_of_tokens_append he he' happend).1

/-- A negation beside a comparison. -/
def notAndAtLeast (negated bound : Operand) : Expression :=
  .and (.nested (.not negated)) (.nested (.ge (.field "size") bound))

theorem fixedArity_notAndAtLeast {negated bound : Operand} (hnegated : negated.OneToken)
    (hbound : bound.OneToken) : (notAndAtLeast negated bound).FixedArity := by
  have hfield : (Operand.field "size").OneToken :=
    ⟨rfl, by decide, fun op => by cases op <;> decide⟩
  exact .and (.nested (.not (.leaf hnegated))) (.nested (.ge (.leaf hfield) (.leaf hbound)))

/-- Whether a leaf is a boolean or a name, and whether another is a number or a text, is all in
which two expressions with this text can differ. -/
theorem shown_eq_of_polish_not_beside_comparison :
    notAndAtLeast (.value (.bool true)) (.value (.integer 5)) ≠
        notAndAtLeast (.identifier "true") (.value (.string "5")) ∧
      (notAndAtLeast (.value (.bool true)) (.value (.integer 5))).polish 2 =
        .ok "&& ! true >= size 5" ∧
      (notAndAtLeast (.identifier "true") (.value (.string "5"))).polish 7 =
        .ok "&& ! true >= size 5" ∧
      (notAndAtLeast (.value (.bool true)) (.value (.integer 5))).shown =
        (notAndAtLeast (.identifier "true") (.value (.string "5"))).shown := by
  have hvalues : (notAndAtLeast (.value (.bool true)) (.value (.integer 5))).FixedArity :=
    fixedArity_notAndAtLeast ⟨rfl, by decide, fun op => by cases op <;> decide⟩
      ⟨rfl, by decide, fun op => by cases op <;> decide⟩
  have hnames : (notAndAtLeast (.identifier "true") (.value (.string "5"))).FixedArity :=
    fixedArity_notAndAtLeast ⟨rfl, by decide, fun op => by cases op <;> decide⟩
      ⟨rfl, by decide, fun op => by cases op <;> decide⟩
  have hpolish : (notAndAtLeast (.value (.bool true)) (.value (.integer 5))).polish 2 =
    .ok "&& ! true >= size 5" := by rfl
  have hpolish' : (notAndAtLeast (.identifier "true") (.value (.string "5"))).polish 7 =
    .ok "&& ! true >= size 5" := by rfl
  refine ⟨fun h => ?_, hpolish, hpolish', shown_eq_of_polish hvalues hnames hpolish hpolish'⟩
  cases h

end MailFilter
