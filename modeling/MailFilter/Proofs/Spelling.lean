import MailFilter.Proofs.Place

/-!
# Spellings of operators

An operator has several spellings, each in any letter case, and which of them a key uses shows only
in the errors that quote the key. **Spelling the operators of an accepted payload in another way
keeps what it is read as** (`spelling_immaterial`), one key after the other and wherever they stand.

This takes for granted that a spelling belongs to one operator. So it does, across the families as
well as within each, and therefore the families may be asked about a token in any order.
-/

namespace MailFilter

open Json Attempt

/-- The key of an object, which spells an operator, is replaced by another spelling of it. -/
inductive Json.Respelled : Json → Json → Prop
  | key (before : List (String × Json)) {key key' : String} {op : Operator} (value : Json)
      (after : List (String × Json)) :
      Operator.spells key op = true → Operator.spells key' op = true →
      Respelled (.object (before ++ (key, value) :: after))
        (.object (before ++ (key', value) :: after))

/-! ## A token and the families -/

namespace Operator

theorem ofTokenIn?_eq_some_iff {family : Family} {token : String} {op : Operator} :
    ofTokenIn? family token = some op ↔ op.family = family ∧ spells token op = true := by
  refine ⟨?_, ?_⟩
  · intro h
    simpa using List.find?_some h
  · intro h
    obtain ⟨hfamily, hspells⟩ := h
    cases hf : ofTokenIn? family token with
    | none => exact absurd (List.find?_eq_none.mp hf op (mem_all op)) (by simp [hfamily, hspells])
    | some found =>
      obtain ⟨-, hfound⟩ : found.family = family ∧ spells token found = true := by
        simpa using List.find?_some hf
      rw [eq_of_spells hfound hspells]

/-- Asked in any order, the families together find what the token spells. -/
theorem findSome?_ofTokenIn? {token : String} {order : List Family}
    (horder : ∀ family, family ∈ order) :
    order.findSome? (fun family => ofTokenIn? family token) = ofToken? token := by
  cases hf : order.findSome? (fun family => ofTokenIn? family token) with
  | some op =>
    obtain ⟨family, -, hop⟩ := List.exists_of_findSome?_eq_some hf
    exact (ofToken?_eq_some_iff.mpr (ofTokenIn?_eq_some_iff.mp hop).2).symm
  | none =>
    cases hop : ofToken? token with
    | none => rfl
    | some op =>
      -- its own family would have found it
      have hfamily := List.findSome?_eq_none_iff.mp hf op.family (horder op.family)
      rw [ofTokenIn?_eq_some_iff.mpr ⟨rfl, ofToken?_eq_some_iff.mp hop⟩] at hfamily
      cases hfamily

end Operator

/-! ## Another spelling of a key -/

section

variable {limit : Nat} {fallback : Fallback} {depth nesting : Nat} {position : Position}

theorem applyOperator_respelled (key key' : String) (op : Operator) (os : List Operand) :
    AgreesUnless PayloadError.Any (applyOperator key op os) (applyOperator key' op os) := by
  cases os with
  | nil => exact agreesUnless_of_error rfl
  | cons o os => exact .refl _

theorem readPart_respelled {key key' : String} {op : Operator} (before : List (String × Json))
    (value : Json) (after : List (String × Json)) (hkey : Operator.spells key op = true)
    (hkey' : Operator.spells key' op = true) :
    AgreesUnless PayloadError.Any
      (readPart limit fallback depth nesting position (.object (before ++ (key, value) :: after)))
      (readPart limit fallback depth nesting position
        (.object (before ++ (key', value) :: after))) := by
  by_cases hlength : (before ++ (key, value) :: after).length = 1
  · obtain ⟨rfl, rfl⟩ := eq_nil_of_length_eq_one hlength
    rw [List.nil_append, List.nil_append,
      readPart_operation value (Operator.ofToken?_eq_some_iff.mpr hkey),
      readPart_operation value (Operator.ofToken?_eq_some_iff.mpr hkey')]
    by_cases hlt : limit < depth + 1
    · rw [if_pos hlt, if_pos hlt]
      exact .refl _
    · rw [if_neg hlt, if_neg hlt]
      exact (AgreesUnless.refl _).bind fun part =>
        (applyOperator_respelled key key' op part.toOperands).bind fun _ => .refl _
  · -- an object with other members is refused for that
    cases hpart : (readPart limit fallback depth nesting position
        (.object (before ++ (key, value) :: after))).outcome with
    | error error => exact agreesUnless_of_error hpart
    | ok part => exact absurd ⟨part, hpart⟩ (not_succeeds_readPart_object hlength)

end

theorem exchangeable_respelled (limit : Nat) (fallback : Fallback) :
    Exchangeable limit fallback Respelled where
  part := by
    intro v v' h depth nesting position
    obtain ⟨before, value, after, hkey, hkey'⟩ := h
    exact readPart_respelled before value after hkey hkey'
  root := by
    intro v v' h part
    obtain ⟨before, value, after, -, -⟩ := h
    exact rootExpression_object _ _ part

/-- **How an operator is spelled never matters.** Other spellings of operators in an accepted
payload keep the expression that it is read as, and the warnings; no token spells two operators; and
the families find the same operator in whatever order they are asked. -/
theorem spelling_immaterial :
    (∀ limit fallback j j' e, Relation.TransGen (Exchanged Respelled) j j' →
        (readPayload limit fallback j).outcome = .ok e →
        (readPayload limit fallback j').outcome = .ok e ∧
          (readPayload limit fallback j').warnings = (readPayload limit fallback j).warnings) ∧
      ∀ token,
        (∀ a b, Operator.spells token a = true → Operator.spells token b = true → a = b) ∧
          ∀ order : List Family, (∀ family, family ∈ order) →
            order.findSome? (fun family => Operator.ofTokenIn? family token) =
              Operator.ofToken? token := by
  refine ⟨?_, ?_⟩
  · intro limit fallback j j' e h hj
    have hsame := (exchangeable_respelled limit fallback).run h hj
    rw [hsame]
    exact ⟨hj, rfl⟩
  · intro token
    exact ⟨fun _ _ => Operator.eq_of_spells, fun _ => Operator.findSome?_ofTokenIn?⟩

/-- Two operators in one payload, one of them below the other. -/
theorem spelling_immaterial_not_over_eq :
    ∃ j, j = Json.single "NOT" (.array [.single "=" (.single "a" (.bool true))]) ∧
      Relation.TransGen (Exchanged Respelled) j
        (.single "!" (.array [.single "eQ" (.single "a" (.bool true))])) ∧
      (readPayload 2 .strict j).outcome =
        .ok (.not (.nested (.eq (.field "a") (.value (.bool true))))) ∧
      (readPayload 2 .strict
          (.single "!" (.array [.single "eQ" (.single "a" (.bool true))]))).outcome =
        .ok (.not (.nested (.eq (.field "a") (.value (.bool true))))) := by
  have hsteps : Relation.TransGen (Exchanged Respelled)
      (.single "NOT" (.array [.single "=" (.single "a" (.bool true))]))
      (.single "!" (.array [.single "eQ" (.single "a" (.bool true))])) := by
    have hnot : Operator.spells "NOT" .not = true ∧ Operator.spells "!" .not = true := by decide
    have heq : Operator.spells "=" .eq = true ∧ Operator.spells "eQ" .eq = true := by decide
    exact .tail
      (.single (.somewhere [] (.key [] (.array [.single "=" (.single "a" (.bool true))]) []
        hnot.1 hnot.2)))
      (.somewhere [.member [] "!" [], .item [] []]
        (.key [] (.single "a" (.bool true)) [] heq.1 heq.2))
  have haccepted : (readPayload 2 .strict
      (.single "NOT" (.array [.single "=" (.single "a" (.bool true))]))).outcome =
        .ok (.not (.nested (.eq (.field "a") (.value (.bool true))))) := by rfl
  exact ⟨_, rfl, hsteps, haccepted,
    (spelling_immaterial.1 2 .strict _ _ _ hsteps haccepted).1⟩

end MailFilter
