import MailFilter.Proofs.Place
import MailFilter.Proofs.Relocation

/-!
# The brackets of lists

Lists string operands together, and how they are nested means nothing. A list in a list contributes
the operands of its items, so its brackets may be left out; and what stands under a key contributes
the same whether it stands there alone or as the only item of a list.

Without the brackets there is one container less around what they held, and what stood in a list
under an operator stands directly under the operator. That is a place with no less room, so
**leaving out brackets keeps what an accepted payload is read as** (`brackets_transparent`), however
many of them are left out one after the other and wherever they stand.
-/

namespace MailFilter

open Json Attempt

/-- Brackets that mean nothing are left out: those of a list in a list, whose items take its place,
or those of a list of one item under a key. -/
inductive Json.Unbracketed : Json → Json → Prop
  | spliced (before inner after : List Json) :
      Unbracketed (.array (before ++ .array inner :: after)) (.array (before ++ (inner ++ after)))
  | single (before : List (String × Json)) (key : String) (after : List (String × Json))
      (item : Json) :
      Unbracketed (.object (before ++ (key, .array [item]) :: after))
        (.object (before ++ (key, item) :: after))

section

variable {limit : Nat} {fallback : Fallback} {depth nesting : Nat} {position : Position}

/-! ## What a list contributes -/

theorem readOperands_array (items : List Json) :
    readOperands limit fallback depth nesting position (.array items) = (do
      let inner ← enterContainer nesting
      readItems limit fallback depth inner items) := by
  rw [readOperands, readPart_array]
  simp only [map_bind, map_pure, Part.toOperands_operands, bind_pure]

/-- What a list contributes its items contribute without it. -/
theorem readOperands_array_agreesUnless (items : List Json) :
    AgreesUnless PayloadError.Any
      (readOperands limit fallback depth nesting position (.array items))
      (readItems limit fallback depth nesting items) := by
  rw [readOperands_array]
  exact enterContainer_agreesUnless_any fun _ =>
    readItems_relocate (Nat.le_refl _) (Nat.le_succ nesting)

theorem readItems_singleton (item : Json) :
    readItems limit fallback depth nesting [item] =
      readOperands limit fallback depth nesting .inSequence item := by
  rw [readItems_cons_readOperands]
  simp only [readItems_nil, ok_bind, List.append_nil, bind_pure]

/-- An item in a list of its own contributes what it contributes in the place of the list. -/
theorem readOperands_singleton_agreesUnless (item : Json) :
    AgreesUnless PayloadError.Any
      (readOperands limit fallback depth nesting position (.array [item]))
      (readOperands limit fallback depth nesting position item) := by
  rw [readOperands_array]
  refine enterContainer_agreesUnless_any fun _ => ?_
  rw [readItems_singleton, readOperands, readOperands, map_eq_pure_bind, map_eq_pure_bind]
  -- a field has no worse place than in a list, so it may stand where the list stood
  have hposition : Position.inSequence = .underOperator → position = .underOperator := by
    intro hunder
    cases hunder
  exact (readPart_relocate (Nat.le_refl _) (Nat.le_succ nesting) hposition).bind fun _ => .refl _

/-! ## Leaving out brackets -/

theorem readPart_spliced_agreesUnless (before inner after : List Json) :
    AgreesUnless PayloadError.Any
      (readPart limit fallback depth nesting position (.array (before ++ .array inner :: after)))
      (readPart limit fallback depth nesting position (.array (before ++ (inner ++ after)))) := by
  refine readPart_array_agreesUnless fun _ => ?_
  rw [readItems_append, readItems_append, readItems_cons_readOperands, readItems_append]
  refine (AgreesUnless.refl _).bind fun _ => AgreesUnless.bind ?_ fun _ => .refl _
  exact (readOperands_array_agreesUnless inner).bind fun _ => .refl _

theorem readPart_single_agreesUnless (before : List (String × Json)) (key : String)
    (after : List (String × Json)) (item : Json) :
    AgreesUnless PayloadError.Any
      (readPart limit fallback depth nesting position
        (.object (before ++ (key, .array [item]) :: after)))
      (readPart limit fallback depth nesting position
        (.object (before ++ (key, item) :: after))) :=
  readPart_fill_agreesUnless (.member before key after)
    (fun _ => readOperands_singleton_agreesUnless item)
    fun _ => readOperands_singleton_agreesUnless item

end

theorem exchangeable_unbracketed (limit : Nat) (fallback : Fallback) :
    Exchangeable limit fallback Unbracketed where
  part := by
    intro v v' h depth nesting position
    cases h with
    | spliced before inner after => exact readPart_spliced_agreesUnless before inner after
    | single before key after item => exact readPart_single_agreesUnless before key after item
  root := by
    intro v v' h part
    cases h with
    | spliced => exact rootExpression_array _ _ part
    | single => exact rootExpression_object _ _ part

/-- **Leaving out brackets keeps what an accepted payload is read as**, and what it warns about. -/
theorem brackets_transparent {limit : Nat} {fallback : Fallback} {j j' : Json} {e : Expression}
    (h : Relation.TransGen (Exchanged Unbracketed) j j')
    (hj : (readPayload limit fallback j).outcome = .ok e) :
    (readPayload limit fallback j').outcome = .ok e ∧
      (readPayload limit fallback j').warnings = (readPayload limit fallback j).warnings := by
  have hsame := (exchangeable_unbracketed limit fallback).run h hj
  rw [hsame]
  exact ⟨hj, rfl⟩

/-- An empty list and a list of lists go, and then the list that is left with one item, so that a
field comes to stand directly under the operator. -/
theorem brackets_transparent_field :
    ∃ j, j = Json.single "and" (.array [.array [], .array [.array [.single "a" .null]]]) ∧
      Relation.TransGen (Exchanged Unbracketed) j (.single "and" (.single "a" .null)) ∧
      (readPayload 1 .permissive j).outcome = .ok (.node .and (.field "a") [.value .null]) ∧
      (readPayload 1 .permissive (.single "and" (.single "a" .null))).outcome =
        .ok (.node .and (.field "a") [.value .null]) := by
  have hsteps : Relation.TransGen (Exchanged Unbracketed)
      (.single "and" (.array [.array [], .array [.array [.single "a" .null]]]))
      (.single "and" (.single "a" .null)) := by
    refine .tail (.tail (.tail (.single
      (.somewhere [.member [] "and" []] (.spliced [] [] [.array [.array [.single "a" .null]]])))
      (.somewhere [.member [] "and" []] (.spliced [] [.array [.single "a" .null]] [])))
      (.somewhere [.member [] "and" []] (.spliced [] [.single "a" .null] [])))
      (.somewhere [] (.single [] "and" [] (.single "a" .null)))
  have haccepted : (readPayload 1 .permissive
      (.single "and" (.array [.array [], .array [.array [.single "a" .null]]]))).outcome =
        .ok (.node .and (.field "a") [.value .null]) := by rfl
  exact ⟨_, rfl, hsteps, haccepted, (brackets_transparent hsteps haccepted).1⟩

end MailFilter
