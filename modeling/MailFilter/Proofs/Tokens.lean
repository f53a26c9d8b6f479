import MailFilter.Proofs.Reading

/-!
# The tokens of a filter

The text of an expression is its **tokens** with a single space between each two of them: the
symbol of an operator, then the tokens of its operands in order; a literal or a name is one token.
A payload, too, has tokens when it is read aloud from its start to its end: a key that spells an
operator reads as the symbol of that operator, any other key as itself, a literal as its text, and
the brackets of lists and objects read as nothing.

Reading a payload moves things about. Lists are flattened, fields are put in front of what stands
under them, literals become operands, and the root may get an operator of its own. None of this
touches the tokens: **an accepted payload and its expression have the same tokens**
(`tokens_toOperands`), apart from the equality in front that a field at the root stands for.
-/

namespace MailFilter

/-! ## The tokens of an expression -/

mutual

/-- The symbol of the operator and the tokens of the operands. -/
def Expression.tokens : Expression → List String
  | .node op first rest => op.symbol :: (first.tokens ++ Operand.tokensOfList rest)

/-- A literal or a name is one token. -/
def Operand.tokens : Operand → List String
  | .value scalar => [scalar.text]
  | .field name => [name]
  | .identifier name => [name]
  | .nested e => e.tokens

/-- The tokens of operands. -/
def Operand.tokensOfList : List Operand → List String
  | [] => []
  | o :: os => o.tokens ++ Operand.tokensOfList os

end

theorem Operand.tokens_ne_nil (o : Operand) : o.tokens ≠ [] := by
  cases o with
  | nested e =>
    obtain ⟨op, first, rest⟩ := e
    exact List.cons_ne_nil _ _
  | _ => exact List.cons_ne_nil _ _

theorem Operand.tokensOfList_append (os os' : List Operand) :
    Operand.tokensOfList (os ++ os') = Operand.tokensOfList os ++ Operand.tokensOfList os' := by
  induction os with
  | nil => rfl
  | cons o os ih =>
    rw [List.cons_append, Operand.tokensOfList, ih, Operand.tokensOfList, List.append_assoc]

mutual

/-- **The text of an expression is its tokens, separated by single spaces.** -/
theorem Expression.text_eq_intercalate : ∀ e : Expression, e.text = " ".intercalate e.tokens
  | .node op first rest => by
    rw [Expression.text, first.text_eq_intercalate, Expression.tokens,
      ← String.intercalate_cons_of_ne_nil first.tokens_ne_nil,
      Operand.append_textOfList rest (List.cons_ne_nil _ _), List.cons_append]

theorem Operand.text_eq_intercalate : ∀ o : Operand, o.text = " ".intercalate o.tokens
  | .value _ => String.intercalate_singleton.symm
  | .field _ => String.intercalate_singleton.symm
  | .identifier _ => String.intercalate_singleton.symm
  | .nested e => by rw [Operand.text, Operand.tokens, e.text_eq_intercalate]

/-- The texts of further operands go on with the tokens of those before them. -/
theorem Operand.append_textOfList : ∀ (os : List Operand) {before : List String}, before ≠ [] →
    " ".intercalate before ++ Operand.textOfList os =
      " ".intercalate (before ++ Operand.tokensOfList os)
  | [], before, _ => by
    rw [Operand.textOfList, Operand.tokensOfList, String.append_empty, List.append_nil]
  | o :: os, before, hbefore => by
    have hjoin : before ++ o.tokens ≠ [] := List.append_ne_nil_of_left_ne_nil hbefore _
    calc " ".intercalate before ++ Operand.textOfList (o :: os)
        = " ".intercalate before ++ " " ++ " ".intercalate o.tokens ++ Operand.textOfList os := by
          rw [Operand.textOfList, o.text_eq_intercalate]
          simp only [String.append_assoc]
      _ = " ".intercalate (before ++ o.tokens) ++ Operand.textOfList os := by
          rw [String.intercalate_append_of_ne_nil hbefore o.tokens_ne_nil]
      _ = " ".intercalate (before ++ Operand.tokensOfList (o :: os)) := by
          rw [Operand.append_textOfList os hjoin, Operand.tokensOfList, List.append_assoc]

end

/-! ## The tokens of a payload -/

namespace Json

/-- What a key reads as: the symbol of the operator that it spells, or else the key itself. -/
def tokenOfKey (key : String) : String :=
  match Operator.ofToken? key with
  | some op => op.symbol
  | none => key

mutual

/-- The tokens of a payload from its start to its end, brackets left out. -/
def tokens : Json → List String
  | .null => [Scalar.null.text]
  | .bool b => [(Scalar.bool b).text]
  | .number n => [(Scalar.ofNumber n).text]
  | .string s => [(Scalar.string s).text]
  | .array items => tokensOfItems items
  | .object members => tokensOfMembers members

/-- The tokens of the items of a list. -/
def tokensOfItems : List Json → List String
  | [] => []
  | x :: xs => x.tokens ++ tokensOfItems xs

/-- The tokens of the members of an object, each key in front of what stands under it. -/
def tokensOfMembers : List (String × Json) → List String
  | [] => []
  | (key, x) :: ms => tokenOfKey key :: (x.tokens ++ tokensOfMembers ms)

end

/-- The tokens of a payload as a filter: a field at the root has the equality in front of it for
which it stands. -/
def rootTokens (j : Json) : List String :=
  if j.isOperation then j.tokens else "==" :: j.tokens

theorem tokens_literal {j : Json} {s : Scalar} (h : Scalar.ofJson j = .ok s) :
    j.tokens = [s.text] := by
  cases j with
  | array => cases h
  | object => cases h
  | _ => cases h; rfl

theorem tokens_object_singleton (key : String) (value : Json) :
    (Json.object [(key, value)]).tokens = tokenOfKey key :: value.tokens := by
  rw [tokens, tokensOfMembers, tokensOfMembers, List.append_nil]

end Json

/-! ## Reading a payload keeps the tokens -/

section

variable {limit : Nat} {fallback : Fallback} {depth nesting : Nat} {position : Position}

theorem tokensOfList_readItems {items : List Json} {os : List Operand}
    (IH : ∀ x ∈ items, ∀ part,
      (readPart limit fallback depth nesting .inSequence x).outcome = .ok part →
        Operand.tokensOfList part.toOperands = x.tokens)
    (h : (readItems limit fallback depth nesting items).outcome = .ok os) :
    Operand.tokensOfList os = Json.tokensOfItems items := by
  induction items generalizing os with
  | nil =>
    rw [readItems_nil] at h
    rw [← Except.ok.inj h]
    rfl
  | cons x xs ih =>
    obtain ⟨part, rest, hpart, hrest, rfl⟩ := readItems_cons_eq_ok.mp h
    obtain ⟨hx, hxs⟩ := List.forall_mem_cons.mp IH
    rw [Operand.tokensOfList_append, hx part hpart, ih hxs hrest, Json.tokensOfItems]

/-- **What a part contributes has the tokens of the part.** -/
theorem tokens_toOperands {j : Json} {part : Part}
    (h : (readPart limit fallback depth nesting position j).outcome = .ok part) :
    Operand.tokensOfList part.toOperands = j.tokens := by
  induction j using Json.partInduction generalizing depth nesting position part with
  | literal j s hs =>
    rw [readPart_literal hs] at h
    obtain rfl := Except.ok.inj h
    rw [Json.tokens_literal hs]
    rfl
  | array items ih =>
    obtain ⟨-, os, hos, rfl⟩ := readPart_array_eq_ok.mp h
    rw [Json.tokens]
    exact tokensOfList_readItems (fun x hx _ hpart => ih x hx hpart) hos
  | empty => cases h
  | several first second others => cases h
  | operation key op value hop ih =>
    obtain ⟨-, inner, first, rest, hinner, hos, rfl⟩ := (readPart_operation_eq_ok hop).mp h
    have htokens := ih hinner
    rw [hos, Operand.tokensOfList] at htokens
    rw [Json.tokens_object_singleton, Json.tokenOfKey, hop, Part.toOperands_expression,
      Operand.tokensOfList, Operand.tokensOfList, List.append_nil, Operand.tokens,
      Expression.tokens, htokens]
  | field key value hop ih =>
    obtain ⟨-, -, inner, hinner, rfl⟩ := (readPart_field_eq_ok hop).mp h
    have htokens := ih hinner
    rw [Json.tokens_object_singleton, Json.tokenOfKey, hop, Part.toOperands_operands,
      Operand.tokensOfList, Operand.tokens, htokens, List.singleton_append]

end

/-- **The expression has the tokens of the payload, all of them and in their order**, so its text
is the payload read aloud. -/
theorem text_readPayload {limit : Nat} {fallback : Fallback} {payload : Json} {e : Expression}
    (h : (readPayload limit fallback payload).outcome = .ok e) :
    e.tokens = payload.rootTokens ∧ e.text = " ".intercalate payload.rootTokens := by
  have htokens : e.tokens = payload.rootTokens := by
    obtain ⟨members, part, rfl, hpart, hroot⟩ := readPayload_eq_ok.mp h
    have hpart := tokens_toOperands hpart
    rw [Json.rootTokens]
    rcases hroot with ⟨hop, rfl⟩ | ⟨hop, first, rest, rfl, rfl⟩
    · rw [if_pos hop, ← hpart, Part.toOperands_expression, Operand.tokensOfList,
        Operand.tokensOfList, List.append_nil, Operand.tokens]
    · rw [if_neg (by rw [hop]; exact Bool.false_ne_true), ← hpart, Part.toOperands_operands,
        Operand.tokensOfList, Expression.tokens]
      rfl
  exact ⟨htokens, htokens ▸ e.text_eq_intercalate⟩

/-- A field at the root over a list in a list, a null that shows as nothing, and a nested
operation. -/
theorem text_readPayload_field_over_lists :
    ∃ e, (readPayload 3 .permissive (.single "to" (.array [.array [.null, .string "a b"],
        .single "and" (.array [.array [], .single "x" (.bool true)])]))).outcome = .ok e ∧
      e.tokens = ["==", "to", "", "a b", "&&", "x", "true"] ∧
      e.text = "== to  a b && x true" := by
  have haccepted : (readPayload 3 .permissive (.single "to" (.array [.array [.null, .string "a b"],
      .single "and" (.array [.array [], .single "x" (.bool true)])]))).outcome =
        .ok (.node .eq (.field "to") [.value .null, .value (.string "a b"),
          .nested (.node .and (.field "x") [.value (.bool true)])]) := by rfl
  obtain ⟨htokens, htext⟩ := text_readPayload haccepted
  exact ⟨_, haccepted, htokens.trans (by rfl), htext.trans (by rfl)⟩

end MailFilter
