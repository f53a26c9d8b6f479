import MailFilter.Proofs.Agreement

/-!
# Places in a payload

A place in a payload is given by the lists and objects around it, each with a gap where the next
one, or at last the value, is put. Of the value in the gap a list or an object sees only the
operands that it contributes, read under one operator more or with one container more around it,
so two values that contribute alike there may be exchanged for each other
(`readPart_fill_agreesUnless`).

Exchanging values is said once for all purposes: if related values are read alike wherever the
first of them is accepted, then **any number of exchanges, somewhere in an accepted payload, keeps
what comes of it** (`Exchangeable.run`).
-/

namespace MailFilter

open Json Attempt

/-! ## Lists and objects with a gap -/

/-- A list or an object with a gap for one value. -/
inductive Json.Enclosure where
  | item (before after : List Json)
  | member (before : List (String × Json)) (key : String) (after : List (String × Json))

/-- The list or object with a value in the gap. -/
def Json.Enclosure.fill : Enclosure → Json → Json
  | item before after, v => .array (before ++ v :: after)
  | member before key after, v => .object (before ++ (key, v) :: after)

/-- Puts a value into the innermost of the gaps, the outermost coming first. -/
def Json.enclose (place : List Enclosure) (v : Json) : Json :=
  place.foldr Enclosure.fill v

theorem Json.enclose_nil (v : Json) : enclose [] v = v := rfl

theorem Json.enclose_cons (outer : Enclosure) (place : List Enclosure) (v : Json) :
    enclose (outer :: place) v = outer.fill (enclose place v) := rfl

/-! ## What is seen of the value in a gap -/

/-- Reads a part for the operands that it contributes. -/
def readOperands (limit : Nat) (fallback : Fallback) (depth nesting : Nat) (position : Position)
    (j : Json) : Attempt (List Operand) :=
  Part.toOperands <$> readPart limit fallback depth nesting position j

section

variable {limit : Nat} {fallback : Fallback} {depth nesting : Nat} {position : Position}

theorem readPart_operation_readOperands {key : String} {op : Operator} (value : Json)
    (hop : Operator.ofToken? key = some op) :
    readPart limit fallback depth nesting position (.object [(key, value)]) =
      if limit < depth + 1 then .fail (.depthExceeded limit)
      else (do
        let os ← readOperands limit fallback (depth + 1) 0 .underOperator value
        let e ← applyOperator key op os
        pure (.expression e)) := by
  rw [readPart_operation value hop]
  simp only [readOperands, bind_map_left]

theorem readPart_field_readOperands {key : String} (value : Json)
    (hop : Operator.ofToken? key = none) :
    readPart limit fallback depth nesting position (.object [(key, value)]) = (do
      checkField fallback position key
      let inner ← enterContainer nesting
      let os ← readOperands limit fallback depth inner .inSequence value
      pure (.operands (.field key :: os))) := by
  rw [readPart_field value hop]
  simp only [readOperands, bind_map_left]

theorem readItems_cons_readOperands (x : Json) (xs : List Json) :
    readItems limit fallback depth nesting (x :: xs) = (do
      let os ← readOperands limit fallback depth nesting .inSequence x
      let os' ← readItems limit fallback depth nesting xs
      pure (os ++ os')) := by
  rw [readItems_cons]
  simp only [readOperands, bind_map_left]

theorem readItems_append (xs ys : List Json) :
    readItems limit fallback depth nesting (xs ++ ys) = (do
      let os ← readItems limit fallback depth nesting xs
      let os' ← readItems limit fallback depth nesting ys
      pure (os ++ os')) := by
  induction xs with
  | nil =>
    rw [List.nil_append, readItems_nil, ok_bind]
    simp only [List.nil_append, bind_pure]
  | cons x xs ih =>
    rw [List.cons_append, readItems_cons_readOperands, readItems_cons_readOperands, ih]
    simp only [bind_assoc, pure_bind, List.append_assoc]

theorem eq_nil_of_length_eq_one {m : String × Json} {before after : List (String × Json)}
    (h : (before ++ m :: after).length = 1) : before = [] ∧ after = [] := by
  rw [List.length_append, List.length_cons] at h
  exact ⟨List.length_eq_zero_iff.mp (by omega), List.length_eq_zero_iff.mp (by omega)⟩

/-- An object that does not have a single member is refused for its keys. -/
theorem readPart_object_congr {members members' : List (String × Json)}
    (hkeys : members.map Prod.fst = members'.map Prod.fst) (hlength : members.length ≠ 1) :
    readPart limit fallback depth nesting position (.object members) =
      readPart limit fallback depth nesting position (.object members') := by
  have hlength' : members'.length = members.length := by
    rw [← List.length_map Prod.fst, ← hkeys, List.length_map]
  match members, members' with
  | [], [] => rfl
  | [_], _ => exact absurd rfl hlength
  | _ :: _ :: _, _ :: _ :: _ => rw [readPart_object_several, readPart_object_several, hkeys]

end

section

variable {limit : Nat} {fallback : Fallback} {reason : PayloadError → Prop}

/-- Readings of an array agree if the readings of its items do. -/
theorem readPart_array_agreesUnless {depth nesting : Nat} {position : Position}
    {items items' : List Json}
    (h : nesting + 1 ≤ maxNesting → AgreesUnless reason
      (readItems limit fallback depth (nesting + 1) items)
      (readItems limit fallback depth (nesting + 1) items')) :
    AgreesUnless reason (readPart limit fallback depth nesting position (.array items))
      (readPart limit fallback depth nesting position (.array items')) := by
  rw [readPart_array, readPart_array]
  exact enterContainer_agreesUnless fun hle => (h hle).bind fun _ => .refl _

/-- **Values that contribute alike may be exchanged for each other** in a list or in an object. -/
theorem readPart_fill_agreesUnless {depth nesting : Nat} {position : Position} {v v' : Json}
    (outer : Enclosure)
    (hcontainer : nesting + 1 ≤ maxNesting → AgreesUnless reason
      (readOperands limit fallback depth (nesting + 1) .inSequence v)
      (readOperands limit fallback depth (nesting + 1) .inSequence v'))
    (hoperator : depth + 1 ≤ limit → AgreesUnless reason
      (readOperands limit fallback (depth + 1) 0 .underOperator v)
      (readOperands limit fallback (depth + 1) 0 .underOperator v')) :
    AgreesUnless reason (readPart limit fallback depth nesting position (outer.fill v))
      (readPart limit fallback depth nesting position (outer.fill v')) := by
  cases outer with
  | item before after =>
    refine readPart_array_agreesUnless fun hle => ?_
    rw [readItems_append, readItems_append, readItems_cons_readOperands,
      readItems_cons_readOperands]
    exact (AgreesUnless.refl _).bind fun _ =>
      ((hcontainer hle).bind fun _ => .refl _).bind fun _ => .refl _
  | member before key after =>
    show AgreesUnless reason
      (readPart limit fallback depth nesting position (.object (before ++ (key, v) :: after)))
      (readPart limit fallback depth nesting position (.object (before ++ (key, v') :: after)))
    by_cases hlength : (before ++ (key, v) :: after).length = 1
    · obtain ⟨rfl, rfl⟩ := eq_nil_of_length_eq_one hlength
      rw [List.nil_append, List.nil_append]
      cases hop : Operator.ofToken? key with
      | some op =>
        rw [readPart_operation_readOperands v hop, readPart_operation_readOperands v' hop]
        by_cases hlt : limit < depth + 1
        · rw [if_pos hlt, if_pos hlt]
          exact .refl _
        · rw [if_neg hlt, if_neg hlt]
          exact (hoperator (Nat.not_lt.mp hlt)).bind fun _ => .refl _
      | none =>
        rw [readPart_field_readOperands v hop, readPart_field_readOperands v' hop]
        refine (AgreesUnless.refl _).bind fun _ => enterContainer_agreesUnless fun hle => ?_
        exact (hcontainer hle).bind fun _ => .refl _
    · -- the reader does not come to the value
      have hkeys : (before ++ (key, v) :: after).map Prod.fst =
          (before ++ (key, v') :: after).map Prod.fst := by
        simp only [List.map_append, List.map_cons]
      rw [readPart_object_congr hkeys hlength]
      exact .refl _

theorem readOperands_agreesUnless {depth nesting : Nat} {position : Position} {v v' : Json}
    (h : AgreesUnless reason (readPart limit fallback depth nesting position v)
      (readPart limit fallback depth nesting position v')) :
    AgreesUnless reason (readOperands limit fallback depth nesting position v)
      (readOperands limit fallback depth nesting position v') := by
  rw [readOperands, readOperands, map_eq_pure_bind, map_eq_pure_bind]
  exact h.bind fun _ => .refl _

/-- Parts that are read alike wherever they stand are read alike at every place. -/
theorem readPart_enclose_agreesUnless {v v' : Json}
    (h : ∀ depth nesting position, AgreesUnless reason
      (readPart limit fallback depth nesting position v)
      (readPart limit fallback depth nesting position v'))
    (place : List Enclosure) (depth nesting : Nat) (position : Position) :
    AgreesUnless reason (readPart limit fallback depth nesting position (enclose place v))
      (readPart limit fallback depth nesting position (enclose place v')) := by
  induction place generalizing depth nesting position with
  | nil =>
    rw [enclose_nil, enclose_nil]
    exact h depth nesting position
  | cons outer place ih =>
    rw [enclose_cons, enclose_cons]
    exact readPart_fill_agreesUnless outer (fun _ => readOperands_agreesUnless (ih _ _ _))
      fun _ => readOperands_agreesUnless (ih _ _ _)

/-- At the root it matters only whether the payload is a list or an object. -/
theorem rootExpression_array (items items' : List Json) (part : Part) :
    rootExpression (.array items) part = rootExpression (.array items') part := by
  rcases part with _ | (_ | _) | _ <;> rfl

theorem rootExpression_object (members members' : List (String × Json)) (part : Part) :
    rootExpression (.object members) part = rootExpression (.object members') part := by
  rcases part with _ | (_ | _) | _ <;> rfl

theorem rootExpression_fill (outer : Enclosure) (v v' : Json) (part : Part) :
    rootExpression (outer.fill v) part = rootExpression (outer.fill v') part := by
  cases outer with
  | item => exact rootExpression_array _ _ part
  | member => exact rootExpression_object _ _ part

/-! ## Exchanging values somewhere in a payload -/

/-- A value somewhere in the payload is exchanged for one to which it is related. -/
inductive Json.Exchanged (related : Json → Json → Prop) : Json → Json → Prop
  | somewhere (place : List Enclosure) {v v' : Json} :
      related v v' → Exchanged related (enclose place v) (enclose place v')

/-- Related values are read alike wherever the first is accepted, also as the whole payload. -/
structure Exchangeable (limit : Nat) (fallback : Fallback) (related : Json → Json → Prop) :
    Prop where
  part : ∀ {v v'}, related v v' → ∀ depth nesting position, AgreesUnless PayloadError.Any
    (readPart limit fallback depth nesting position v)
    (readPart limit fallback depth nesting position v')
  root : ∀ {v v'}, related v v' → ∀ part, rootExpression v part = rootExpression v' part

theorem Exchangeable.step {related : Json → Json → Prop}
    (hrelated : Exchangeable limit fallback related) {j j' : Json} (h : Exchanged related j j') :
    AgreesUnless PayloadError.Any (readPayload limit fallback j)
      (readPayload limit fallback j') := by
  obtain ⟨place, hvalues⟩ := h
  rw [readPayload, readPayload]
  refine (readPart_enclose_agreesUnless (hrelated.part hvalues) place 0 0 .root).bind fun part => ?_
  cases place with
  | nil => exact .inr (hrelated.root hvalues part).symm
  | cons outer place => exact .inr (rootExpression_fill outer _ _ part)

/-- **Exchanging one value after the other** keeps what comes of a payload that is accepted. -/
theorem Exchangeable.run {related : Json → Json → Prop}
    (hrelated : Exchangeable limit fallback related) {j j' : Json} {e : Expression}
    (h : Relation.TransGen (Exchanged related) j j')
    (hj : (readPayload limit fallback j).outcome = .ok e) :
    readPayload limit fallback j' = readPayload limit fallback j := by
  induction h with
  | single hstep => exact (hrelated.step hstep).eq_of_ok hj
  | tail _ hstep ih =>
    rw [← ih] at hj ⊢
    exact (hrelated.step hstep).eq_of_ok hj

end

end MailFilter
