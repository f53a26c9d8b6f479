import MailFilter.Proofs.Place

/-!
# How far down a payload is read

Down to a value the reader comes through at most eight containers in front of the first operator and
eight behind each, and through no more operators than the limit. So **what more lists and objects
than that enclose is never looked at**: it may be exchanged for anything, with the same outcome and
the same warnings (`unread_beyond_bound`). The invariant of the way down is that the lists and
objects still to come are more than both counters together allow.

With one list or object fewer a value may be looked at. The place that shows this has all the lists
that are allowed, and between them all the operators.
-/

namespace MailFilter

open Json Attempt

/-! ## What lies too deep is not looked at -/

section

variable {limit : Nat} {fallback : Fallback}

/-- At a place under `depth` operators and `nesting` containers the reader comes through at most
`maxNesting - nesting` containers more before the next operator, and through `maxNesting + 1` lists
and objects for each operator that the limit still allows. -/
theorem readPart_enclose_eq {depth nesting : Nat} {position : Position} {place : List Enclosure}
    (hdeep : maxNesting - nesting + (maxNesting + 1) * (limit - depth) < place.length)
    (v v' : Json) :
    readPart limit fallback depth nesting position (enclose place v) =
      readPart limit fallback depth nesting position (enclose place v') := by
  induction place generalizing depth nesting position with
  | nil => exact absurd hdeep (Nat.not_lt_zero _)
  | cons outer place ih =>
    rw [List.length_cons] at hdeep
    rw [enclose_cons, enclose_cons]
    have hagree : AgreesUnless (fun _ => False)
        (readPart limit fallback depth nesting position (outer.fill (enclose place v)))
        (readPart limit fallback depth nesting position (outer.fill (enclose place v'))) := by
      refine readPart_fill_agreesUnless outer (fun hle => ?_) fun hle => ?_
      · exact readOperands_agreesUnless (.inr (ih (by omega)).symm)
      · -- the operator takes one off what is left of the limit, which pays for the new containers
        have hleft : limit - depth = limit - (depth + 1) + 1 := by omega
        rw [hleft, Nat.mul_succ] at hdeep
        exact readOperands_agreesUnless (.inr (ih (by omega)).symm)
    rcases hagree with ⟨_, hfalse, -⟩ | hsame
    · exact hfalse.elim
    · exact hsame.symm

/-! ## The bound is the best -/

/-- As many lists as may be nested. -/
def deepestLists : List Enclosure :=
  List.replicate maxNesting (.item [] [])

/-- The deepest place to which the reader comes through a number of operators. -/
def deepestPlace : Nat → List Enclosure
  | 0 => deepestLists
  | operators + 1 => deepestLists ++ .member [] "!" [] :: deepestPlace operators

theorem length_deepestPlace (operators : Nat) :
    (deepestPlace operators).length = 9 * operators + 8 := by
  induction operators with
  | zero => rfl
  | succ n ih =>
    rw [deepestPlace, List.length_append, List.length_cons, ih, deepestLists, List.length_replicate,
      maxNesting]
    omega

/-- A value that is refused wherever it stands. -/
def RefusedAnywhere (limit : Nat) (fallback : Fallback) (depth : Nat) (error : PayloadError)
    (v : Json) : Prop :=
  ∀ nesting position, (readPart limit fallback depth nesting position v).outcome = .error error

theorem outcome_enclose_lists {depth nesting count : Nat} {position : Position} {v : Json}
    {error : PayloadError} (hcount : nesting + count ≤ maxNesting)
    (hv : RefusedAnywhere limit fallback depth error v) :
    (readPart limit fallback depth nesting position
      (enclose (List.replicate count (.item [] [])) v)).outcome = .error error := by
  induction count generalizing nesting position with
  | zero => exact hv nesting position
  | succ count ih =>
    rw [List.replicate_succ, enclose_cons, Enclosure.fill, List.nil_append, readPart_array,
      enterContainer_ok (by omega), ok_bind, readItems_cons]
    exact Attempt.outcome_bind_eq_error.mpr
      (.inl (Attempt.outcome_bind_eq_error.mpr (.inl (ih (by omega)))))

theorem outcome_enclose_deepestPlace {depth operators : Nat} {v : Json} {error : PayloadError}
    (hdepth : depth + operators = limit) (hv : RefusedAnywhere limit fallback limit error v)
    (position : Position) :
    (readPart limit fallback depth 0 position (enclose (deepestPlace operators) v)).outcome =
      .error error := by
  have hlists : 0 + maxNesting ≤ maxNesting := by omega
  induction operators generalizing depth position with
  | zero =>
    obtain rfl : depth = limit := hdepth
    exact outcome_enclose_lists hlists hv
  | succ n ih =>
    rw [deepestPlace, enclose, List.foldr_append]
    refine outcome_enclose_lists hlists fun nesting position => ?_
    have hop : Operator.ofToken? "!" = some .not := by rfl
    rw [List.foldr_cons, Enclosure.fill, List.nil_append, readPart_operation _ hop,
      if_neg (by omega)]
    exact Attempt.outcome_bind_eq_error.mpr (.inl (ih (by omega) .underOperator))

theorem readPayload_deepestPlace {v : Json} {error : PayloadError}
    (hv : RefusedAnywhere limit fallback limit error v) :
    (readPayload limit fallback (enclose (deepestPlace limit) v)).outcome = .error error := by
  rw [readPayload, Attempt.outcome_bind,
    outcome_enclose_deepestPlace (Nat.zero_add limit) hv .root]

end

/-- **What more than 9 · limit + 8 lists and objects enclose is never looked at**: exchanged for
anything else, it leaves the outcome and the warnings as they are. What no more than that enclose
may be looked at. -/
theorem unread_beyond_bound (limit : Nat) (fallback : Fallback) :
    (∀ place v v', 9 * limit + 9 ≤ place.length →
        readPayload limit fallback (enclose place v) =
          readPayload limit fallback (enclose place v')) ∧
      ∃ place v v', place.length = 9 * limit + 8 ∧
        (readPayload limit fallback (enclose place v)).outcome ≠
          (readPayload limit fallback (enclose place v')).outcome := by
  refine ⟨?_, ?_⟩
  · intro place v v' hdeep
    cases place with
    | nil => exact absurd hdeep (Nat.not_succ_le_zero _)
    | cons outer place =>
      have hroot : maxNesting - 0 + (maxNesting + 1) * (limit - 0) < (outer :: place).length := by
        rw [maxNesting]
        omega
      rw [readPayload, readPayload, readPart_enclose_eq hroot v v', enclose_cons, enclose_cons]
      simp only [rootExpression_fill outer (enclose place v) (enclose place v')]
  · -- two values that are refused for different reasons
    have hempty : RefusedAnywhere limit fallback limit .emptyObject (.object []) :=
      fun _ _ => rfl
    have hseveral : RefusedAnywhere limit fallback limit (.multipleKeys "a, b")
        (.object [("a", .null), ("b", .null)]) :=
      fun _ _ => rfl
    refine ⟨deepestPlace limit, .object [], .object [("a", .null), ("b", .null)],
      length_deepestPlace limit, fun hsame => ?_⟩
    rw [readPayload_deepestPlace hempty, readPayload_deepestPlace hseveral] at hsame
    cases hsame

/-- Behind an item of a list and under an operator and sixteen fields, with a limit of one. -/
theorem unread_beyond_bound_eighteen :
    9 * 1 + 9 ≤ (Enclosure.member [] "and" [] :: .item [.bool true] [] ::
        List.replicate 16 (.member [] "a" [])).length ∧
      readPayload 1 .permissive (enclose (.member [] "and" [] :: .item [.bool true] [] ::
          List.replicate 16 (.member [] "a" [])) .null) =
        readPayload 1 .permissive (enclose (.member [] "and" [] :: .item [.bool true] [] ::
          List.replicate 16 (.member [] "a" [])) (.object [])) := by
  have hdeep : 9 * 1 + 9 ≤ (Enclosure.member [] "and" [] :: .item [.bool true] [] ::
      List.replicate 16 (.member [] "a" [])).length := by
    decide
  exact ⟨hdeep, (unread_beyond_bound 1 .permissive).1 _ _ _ hdeep⟩

end MailFilter
