import MailFilter.Proofs.Grammar
import MailFilter.Proofs.Json.Order
import MailFilter.Proofs.Refusal

/-!
# What a refusal says is true of the payload

Each reason for which a payload is refused says something about the payload: that there is an
empty object in it, or a key that may not stand where it does, or more operators one under the
other than the limit allows. `TrueOf` spells that out for each reason, in terms of the payload
alone, and **whatever reason a refusal gives is true of the payload** (`refusal_trueOf`). The one
reason that would say nothing, a value of an unexpected kind, is never given.

The reader itself judges by what it carries down with it, two counters and a position. Two facts
connect this with the payload. A reading fails at a value to which the reader comes, for a defect
of that value at the place (`exists_defect`); and what is carried to a value is what stands above
it on a trail (`exists_above`).
-/

namespace MailFilter

open Json

namespace Json

/-- A list, or an object with a single key, which spells no operator. -/
def Wraps (v : Json) : Prop :=
  (∃ items, v = .array items) ∨
    ∃ key value, v = .object [(key, value)] ∧ Operator.ofToken? key = none

end Json

/-- What a reason says about the payload that is refused for it. -/
def PayloadError.TrueOf (limit : Nat) (fallback : Fallback) (payload : Json) :
    PayloadError → Prop
  /- The mode is strict, and the token is a key that spells no operator but has a character of
  one. -/
  | .unrecognizedOperator token =>
    fallback = .strict ∧ Operator.ofToken? token = none ∧
      (∃ value, payload.Inside (.object [(token, value)])) ∧ ∃ c ∈ token.toList, c ∈ operatorSymbols
  /- The mode is strict, and the key spells no operator and has no character of one, but is no field
  name, or its object does not stand directly under an operator. -/
  | .misplacedField key =>
    fallback = .strict ∧ Operator.ofToken? key = none ∧ (∀ c ∈ key.toList, c ∉ operatorSymbols) ∧
      ∃ above value, Trail payload (above ++ [.object [(key, value)]]) ∧
        ¬ (isFieldName key = true ∧
          ∃ above' operation, above = above' ++ [operation] ∧ operation.isOperation = true)
  /- The payload is no object. -/
  | .notAnExpression => ∀ members, payload ≠ .object members
  /- There is an empty object. -/
  | .emptyObject => payload.Inside (.object [])
  /- The text is that of the keys of an object with two or more, sorted and joined. -/
  | .multipleKeys keys =>
    ∃ members, payload.Inside (.object members) ∧ 2 ≤ members.length ∧
      keys = ", ".intercalate (members.map Prod.fst).mergeSort
  /- The key is the only one of its object, spells an operator, and stands over lists that hold
  nothing but lists. -/
  | .noOperands key =>
    ∃ op value, Operator.ofToken? key = some op ∧ payload.Inside (.object [(key, value)]) ∧
      value.Hollow
  /- An operation stands under as many others as the limit allows. -/
  | .depthExceeded n =>
    n = limit ∧ ∃ above operation, Trail payload (above ++ [operation]) ∧
      operation.isOperation = true ∧ above.countP isOperation = limit
  /- Nine lists or fields stand one in the other. -/
  | .nestingExceeded n =>
    n = 8 ∧ ∃ vs run, Trail payload vs ∧ run <:+: vs ∧ run.length = 9 ∧ ∀ v ∈ run, v.Wraps
  | .unexpectedNode _ => False

/-! ## The values to which the reader comes -/

/-- The reader comes to a value under so many operators, so many containers since the last of them,
and at such a position. -/
inductive Visits (limit : Nat) (payload : Json) : Nat → Nat → Position → Json → Prop
  | root : Visits limit payload 0 0 .root payload
  | item {depth nesting : Nat} {position : Position} {items : List Json} {x : Json} :
      Visits limit payload depth nesting position (.array items) → nesting + 1 ≤ maxNesting →
      x ∈ items → Visits limit payload depth (nesting + 1) .inSequence x
  | operands {depth nesting : Nat} {position : Position} {key : String} {op : Operator}
      {value : Json} :
      Visits limit payload depth nesting position (.object [(key, value)]) →
      Operator.ofToken? key = some op → depth + 1 ≤ limit →
      Visits limit payload (depth + 1) 0 .underOperator value
  | field {depth nesting : Nat} {position : Position} {key : String} {value : Json} :
      Visits limit payload depth nesting position (.object [(key, value)]) →
      Operator.ofToken? key = none → nesting + 1 ≤ maxNesting →
      Visits limit payload depth (nesting + 1) .inSequence value

/-- What stands above a value on a trail is what the reader carries to the value. -/
structure Above (limit : Nat) (payload : Json) (depth nesting : Nat) (position : Position)
    (v : Json) (above : List Json) : Prop where
  /-- The trail ends at the value. -/
  trail : Trail payload (above ++ [v])
  /-- The depth is the number of operations. -/
  operations : above.countP isOperation = depth
  depth_le : depth ≤ limit
  /-- The nesting is the length of a run of containers at the end. -/
  run : ∃ run, run <:+ above ∧ run.length = nesting ∧ ∀ u ∈ run, u.Wraps
  nesting_le : nesting ≤ maxNesting
  /-- The position is the one below the last. -/
  position_iff : position = .underOperator ↔
    ∃ above' operation, above = above' ++ [operation] ∧ operation.isOperation = true

section

variable {limit : Nat} {fallback : Fallback} {payload : Json} {depth nesting : Nat}
  {position : Position} {v : Json} {above : List Json}

/-- Below a container there is one more of them. -/
theorem Above.below_container {x : Json} (h : Above limit payload depth nesting position v above)
    (hv : v.Wraps) (hoperation : v.isOperation = false) (hle : nesting + 1 ≤ maxNesting)
    (hx : Trail v [v, x]) :
    Above limit payload depth (nesting + 1) .inSequence x (above ++ [v]) where
  trail := by
    rw [List.append_assoc]
    exact h.trail.append hx
  operations := by
    rw [List.countP_append, List.countP_cons_of_neg (by simp [hoperation]), List.countP_nil,
      h.operations, Nat.add_zero]
  depth_le := h.depth_le
  run := by
    obtain ⟨run, ⟨before, rfl⟩, hlength, hwraps⟩ := h.run
    refine ⟨run ++ [v], ⟨before, by simp⟩, by simp [hlength], ?_⟩
    exact List.forall_mem_append.mpr ⟨hwraps, List.forall_mem_singleton.mpr hv⟩
  nesting_le := hle
  position_iff := by
    refine iff_of_false (fun h => nomatch h) fun h => ?_
    obtain ⟨above', operation, habove, htrue⟩ := h
    obtain ⟨-, hlast⟩ := List.append_inj' habove rfl
    obtain ⟨rfl, -⟩ := List.cons.inj hlast
    rw [hoperation] at htrue
    cases htrue

/-- Below an operation containers are counted anew. -/
theorem Above.below_operation {x : Json} (h : Above limit payload depth nesting position v above)
    (hoperation : v.isOperation = true) (hle : depth + 1 ≤ limit) (hx : Trail v [v, x]) :
    Above limit payload (depth + 1) 0 .underOperator x (above ++ [v]) where
  trail := by
    rw [List.append_assoc]
    exact h.trail.append hx
  operations := by
    rw [List.countP_append, List.countP_cons_of_pos hoperation, List.countP_nil, h.operations]
  depth_le := hle
  run := ⟨[], List.nil_suffix, rfl, fun _ h => nomatch h⟩
  nesting_le := Nat.zero_le _
  position_iff := iff_of_true rfl ⟨above, v, rfl, hoperation⟩

/-- **What the reader carries to a value stands above it.** -/
theorem exists_above (h : Visits limit payload depth nesting position v) :
    ∃ above, Above limit payload depth nesting position v above := by
  induction h with
  | root =>
    refine ⟨[], .here payload, rfl, Nat.zero_le _, ⟨[], List.suffix_rfl, rfl, fun _ h => nomatch h⟩,
      Nat.zero_le _, iff_of_false (fun h => nomatch h) fun h => ?_⟩
    obtain ⟨above', operation, habove, -⟩ := h
    exact absurd habove.symm (by simp)
  | item _ hle hx ih =>
    obtain ⟨above, habove⟩ := ih
    exact ⟨_, habove.below_container (.inl ⟨_, rfl⟩) rfl hle (.item hx (.here _))⟩
  | operands _ hop hle ih =>
    obtain ⟨above, habove⟩ := ih
    exact ⟨_, habove.below_operation (isOperation_of_some hop) hle
      (.member (List.mem_singleton.mpr rfl) (.here _))⟩
  | field _ hop hle ih =>
    obtain ⟨above, habove⟩ := ih
    exact ⟨_, habove.below_container (.inr ⟨_, _, rfl, hop⟩) (isOperation_of_none hop) hle
      (.member (List.mem_singleton.mpr rfl) (.here _))⟩

end

/-! ## The value at which a reading fails -/

/-- A value has a defect at its place, for which a reading fails there. -/
inductive Defect (limit : Nat) (fallback : Fallback) (depth nesting : Nat) (position : Position) :
    Json → PayloadError → Prop
  | empty : Defect limit fallback depth nesting position (.object []) .emptyObject
  | several (first second : String × Json) (others : List (String × Json)) :
      Defect limit fallback depth nesting position (.object (first :: second :: others))
        (.multipleKeys (", ".intercalate ((first :: second :: others).map Prod.fst)))
  | depth {key : String} {op : Operator} {value : Json} :
      Operator.ofToken? key = some op → limit < depth + 1 →
      Defect limit fallback depth nesting position (.object [(key, value)]) (.depthExceeded limit)
  | operands {key : String} {op : Operator} {value : Json} :
      Operator.ofToken? key = some op → value.Hollow →
      Defect limit fallback depth nesting position (.object [(key, value)]) (.noOperands key)
  | nesting {v : Json} : v.Wraps → maxNesting < nesting + 1 →
      Defect limit fallback depth nesting position v (.nestingExceeded maxNesting)
  | key {key : String} {value : Json} {error : PayloadError} : Operator.ofToken? key = none →
      (checkField fallback position key).outcome = .error error →
      Defect limit fallback depth nesting position (.object [(key, value)]) error

section

variable {limit : Nat} {fallback : Fallback} {payload : Json} {error : PayloadError}

/-- **A reading fails at a value to which the reader comes**, for a defect of that value. -/
theorem exists_defect {depth nesting : Nat} {position : Position} {j : Json}
    (hj : Visits limit payload depth nesting position j)
    (h : (readPart limit fallback depth nesting position j).outcome = .error error) :
    ∃ depth nesting position v, Visits limit payload depth nesting position v ∧
      Defect limit fallback depth nesting position v error := by
  induction j using Json.partInduction generalizing depth nesting position with
  | literal j s hs =>
    rw [readPart_literal hs] at h
    cases h
  | array items ih =>
    rcases readPart_array_eq_error h with ⟨hlt, rfl⟩ | ⟨hle, h⟩
    · exact ⟨_, _, _, _, hj, .nesting (.inl ⟨_, rfl⟩) hlt⟩
    · obtain ⟨x, hx, h⟩ := readItems_eq_error h
      exact ih x hx (hj.item hle hx) h
  | empty =>
    obtain rfl := Except.error.inj h
    exact ⟨_, _, _, _, hj, .empty⟩
  | several first second others =>
    obtain rfl := Except.error.inj h
    exact ⟨_, _, _, _, hj, .several first second others⟩
  | operation key op value hop ih =>
    rcases readPart_operation_eq_error hop h with ⟨hlt, rfl⟩ | ⟨hle, h | ⟨rfl, part, hnone, hpart⟩⟩
    · exact ⟨_, _, _, _, hj, .depth hop hlt⟩
    · exact ih (hj.operands hop hle) h
    · exact ⟨_, _, _, _, hj, .operands hop ((toOperands_eq_nil_iff hpart).mp hnone)⟩
  | field key value hop ih =>
    rcases readPart_field_eq_error hop h with h | ⟨hlt, rfl⟩ | ⟨hle, h⟩
    · exact ⟨_, _, _, _, hj, .key hop h⟩
    · exact ⟨_, _, _, _, hj, .nesting (.inr ⟨_, _, rfl, hop⟩) hlt⟩
    · exact ih (hj.field hop hle) h

/-! ## Refusals are true -/

theorem mergeSort_keys {members : List (String × Json)} (h : Ascending members) :
    (members.map Prod.fst).mergeSort = members.map Prod.fst := by
  refine List.mergeSort_of_pairwise (List.pairwise_map.mpr (h.imp fun hlt => ?_))
  exact decide_eq_true (Std.le_of_lt hlt)

/-- What the defect of a value says about the payload in which the value stands. -/
theorem trueOf_defect {depth nesting : Nat} {position : Position} {v : Json} {above : List Json}
    (hordered : payload.Ordered) (habove : Above limit payload depth nesting position v above)
    (h : Defect limit fallback depth nesting position v error) :
    error.TrueOf limit fallback payload := by
  have hinside : payload.Inside v := ⟨_, habove.trail, by simp⟩
  cases h with
  | empty => exact hinside
  | several first second others =>
    have hsorted := mergeSort_keys (hordered.of_inside hinside).ascending
    exact ⟨_, hinside, by simp, by rw [hsorted]⟩
  | depth hop hlt =>
    refine ⟨rfl, above, _, habove.trail, ?_, ?_⟩
    · exact isOperation_of_some hop
    · have hoperations := habove.operations
      have hle := habove.depth_le
      omega
  | operands hop hhollow => exact ⟨_, _, hop, hinside, hhollow⟩
  | nesting hwraps hlt =>
    obtain ⟨run, ⟨before, hrun⟩, hlength, hall⟩ := habove.run
    have hle := habove.nesting_le
    have hmax : maxNesting = 8 := rfl
    -- the value itself is the ninth
    refine ⟨rfl, _, run ++ [v], habove.trail, ⟨before, [], by simp [← hrun]⟩, ?_, ?_⟩
    · rw [List.length_append, List.length_singleton]
      omega
    · exact List.forall_mem_append.mpr ⟨hall, List.forall_mem_singleton.mpr hwraps⟩
  | key hop hcheck =>
    obtain ⟨hstrict, ⟨hlooks, rfl⟩ | ⟨hlooks, rfl, hplace⟩⟩ := checkField_eq_error hcheck
    · exact ⟨hstrict, hop, ⟨_, hinside⟩, looksLikeOperator_eq_true_iff.mp hlooks⟩
    · refine ⟨hstrict, hop, fun c hc hsymbol => ?_, above, _, habove.trail, fun h => ?_⟩
      · rw [looksLikeOperator_eq_true_iff.mpr ⟨c, hc, hsymbol⟩] at hlooks
        cases hlooks
      · exact hplace ⟨habove.position_iff.mpr h.2, h.1⟩

/-- **The reason for which a payload is refused is true of the payload**, if the payload is in order
as everything is that is read from a text. -/
theorem refusal_trueOf (hordered : payload.Ordered)
    (h : (readPayload limit fallback payload).outcome = .error error) :
    error.TrueOf limit fallback payload := by
  rcases readPayload_eq_error h with h | ⟨rfl, hnone⟩
  · obtain ⟨depth, nesting, position, v, hvisits, hdefect⟩ := exists_defect .root h
    obtain ⟨above, habove⟩ := exists_above hvisits
    exact trueOf_defect hordered habove hdefect
  · exact hnone

end

/-- Two keys, in an object that stands in a list under an operation. -/
theorem refusal_trueOf_two_keys :
    ∃ payload, payload = Json.single "and" (.array [.single "!" (.bool true),
        .object [("a", .null), ("b", .number (.integer 1))]]) ∧ payload.Ordered ∧
      (readPayload 2 .strict payload).outcome = .error (.multipleKeys "a, b") ∧
      (PayloadError.multipleKeys "a, b").TrueOf 2 .strict payload := by
  have hkeys : (Json.object [("a", .null), ("b", .number (.integer 1))]).Ordered := by
    refine .object (List.pairwise_pair.mpr (by decide)) (List.forall_mem_cons.mpr ⟨?_, ?_⟩)
    · exact .literal rfl
    · exact List.forall_mem_singleton.mpr (.literal rfl)
  have hnegation : (Json.single "!" (.bool true)).Ordered := .single "!" (.literal rfl)
  have hordered := Ordered.single "and" (.array (List.forall_mem_cons.mpr
    ⟨hnegation, List.forall_mem_singleton.mpr hkeys⟩))
  exact ⟨_, rfl, hordered, by rfl, refusal_trueOf hordered (by rfl)⟩

end MailFilter
