import MailFilter.Proofs.Reading

/-!
# The payloads that are accepted

A payload is accepted or refused for what stands on its trails, whatever the order in which the
reader looks at things. Accepted under the permissive fallback is exactly an object

* in which every object has one key,
* in which no operator key stands over a hollow value,
* on no trail of which there are more operations than the limit,
* on no trail of which more than eight containers follow each other without an operation
  between them,

and the strict fallback asks in addition that every field key be a field name, on an object that
stands directly under an operator.

The reader carries two counters and a position down with it. `Passes` says the same of the rest
of a trail that is left below such a place, and the induction is over that: each value of a trail
either takes one off what the counters still allow, or starts one of them anew.
-/

namespace MailFilter

namespace Json

/-- A value may stand at a position: if it is an object, it has one key, an operator key does not
stand over a hollow value, and under the strict fallback a field key is a field name and stands
directly under an operator. -/
structure Admitted (fallback : Fallback) (position : Position) (v : Json) : Prop where
  oneKey : ∀ members, v = .object members → members.length = 1
  operands : ∀ members, v = .object members →
    ∀ m ∈ members, (Operator.ofToken? m.1).isSome = true → ¬ m.2.Hollow
  field : fallback = .strict → ∀ members, v = .object members →
    ∀ m ∈ members, Operator.ofToken? m.1 = none →
      isFieldName m.1 = true ∧ position = .underOperator

/-- Where a value stands that comes directly below another. -/
def positionBelow (v : Json) : Position :=
  if v.isOperation then .underOperator else .inSequence

/-- Each value may stand below the one before it, and the first at `position`. -/
def AdmittedFrom (fallback : Fallback) : Position → List Json → Prop
  | _, [] => True
  | position, v :: below =>
    v.Admitted fallback position ∧ AdmittedFrom fallback v.positionBelow below

/-- No containers follow each other in a greater number than `maxNesting`, if `nesting` of them
come before the first value. -/
def RunsFrom (nesting : Nat) (vs : List Json) : Prop :=
  (∀ run, run <+: vs → (∀ v ∈ run, v.isContainer = true) → run.length ≤ maxNesting - nesting) ∧
    ∀ run, run <:+: vs → (∀ v ∈ run, v.isContainer = true) → run.length ≤ maxNesting

/-- The rest of a trail may be passed from a place under `depth` operators and `nesting`
containers since the last of them. -/
structure Passes (limit : Nat) (fallback : Fallback) (depth nesting : Nat) (position : Position)
    (vs : List Json) : Prop where
  admitted : AdmittedFrom fallback position vs
  operations : vs.countP isOperation ≤ limit - depth
  runs : RunsFrom nesting vs

/-! ## Runs of containers, from the front -/

theorem runsFrom_nil (nesting : Nat) : RunsFrom nesting [] := by
  refine ⟨fun run hrun _ => ?_, fun run hrun _ => ?_⟩
  · rw [List.prefix_nil.mp hrun]; simp
  · rw [List.infix_nil.mp hrun]; simp

/-- A container adds one to the run that is open. -/
theorem runsFrom_cons_container {nesting : Nat} {v : Json} {vs : List Json}
    (hv : v.isContainer = true) :
    RunsFrom nesting (v :: vs) ↔ nesting + 1 ≤ maxNesting ∧ RunsFrom (nesting + 1) vs := by
  refine ⟨?_, ?_⟩
  · intro h
    obtain ⟨hopen, hany⟩ := h
    have hone := hopen [v] (by simp) (by simpa using hv)
    refine ⟨by simp at hone; omega, fun run hrun hall => ?_, fun run hrun hall => ?_⟩
    · have := hopen (v :: run) (by simpa using hrun) (by simpa [hv] using hall)
      simp only [List.length_cons] at this
      omega
    · exact hany run (List.infix_cons_iff.mpr (.inr hrun)) hall
  · intro h
    obtain ⟨hle, hopen, hany⟩ := h
    -- a run that starts at the container is one longer than what is left of it behind
    have hfront : ∀ run, run <+: v :: vs → (∀ w ∈ run, w.isContainer = true) →
        run.length ≤ maxNesting - nesting := by
      intro run hrun hall
      rcases List.prefix_cons_iff.mp hrun with rfl | ⟨tail, rfl, htail⟩
      · simp
      · have := hopen tail htail fun w hw => hall w (List.mem_cons_of_mem v hw)
        simp only [List.length_cons]
        omega
    refine ⟨hfront, fun run hrun hall => ?_⟩
    rcases List.infix_cons_iff.mp hrun with hrun | hrun
    · have := hfront run hrun hall
      omega
    · exact hany run hrun hall

/-- Anything else ends it. -/
theorem runsFrom_cons_of_not_container {nesting : Nat} {v : Json} {vs : List Json}
    (hv : v.isContainer = false) : RunsFrom nesting (v :: vs) ↔ RunsFrom 0 vs := by
  have hempty : ∀ run, run <+: v :: vs → (∀ w ∈ run, w.isContainer = true) → run = [] := by
    intro run hrun hall
    rcases List.prefix_cons_iff.mp hrun with rfl | ⟨tail, rfl, -⟩
    · rfl
    · exact absurd (hall v (by simp)) (by simp [hv])
  refine ⟨?_, ?_⟩
  · intro h
    obtain ⟨-, hany⟩ := h
    refine ⟨fun run hrun hall => ?_, fun run hrun hall => ?_⟩
    · exact hany run (List.infix_cons_iff.mpr (.inr hrun.isInfix)) hall
    · exact hany run (List.infix_cons_iff.mpr (.inr hrun)) hall
  · intro h
    obtain ⟨-, hany⟩ := h
    refine ⟨fun run hrun hall => ?_, fun run hrun hall => ?_⟩
    · rw [hempty run hrun hall]; simp
    · rcases List.infix_cons_iff.mp hrun with hrun | hrun
      · rw [hempty run hrun hall]; simp
      · exact hany run hrun hall

theorem runsFrom_zero_iff {vs : List Json} :
    RunsFrom 0 vs ↔
      ∀ run, run <:+: vs → (∀ v ∈ run, v.isContainer = true) → run.length ≤ maxNesting :=
  ⟨fun h => h.2, fun h => ⟨fun run hrun => h run hrun.isInfix, h⟩⟩

/-! ## What the first value of a trail takes off what may follow -/

section

variable {limit : Nat} {fallback : Fallback} {depth nesting : Nat} {position : Position}

theorem passes_nil : Passes limit fallback depth nesting position [] :=
  ⟨trivial, by simp, runsFrom_nil nesting⟩

theorem passes_cons_operation {v : Json} {vs : List Json} (hv : v.isOperation = true)
    (hcontainer : v.isContainer = false) :
    Passes limit fallback depth nesting position (v :: vs) ↔
      v.Admitted fallback position ∧ depth + 1 ≤ limit ∧
        Passes limit fallback (depth + 1) 0 .underOperator vs := by
  have hbelow : v.positionBelow = .underOperator := by rw [positionBelow, if_pos hv]
  refine ⟨?_, ?_⟩
  · intro h
    obtain ⟨⟨hadmitted, hrest⟩, hcount, hruns⟩ := h
    rw [List.countP_cons_of_pos hv] at hcount
    exact ⟨hadmitted, by omega, hbelow ▸ hrest, by omega,
      (runsFrom_cons_of_not_container hcontainer).mp hruns⟩
  · intro h
    obtain ⟨hadmitted, hle, hrest, hcount, hruns⟩ := h
    refine ⟨⟨hadmitted, hbelow ▸ hrest⟩, ?_,
      (runsFrom_cons_of_not_container hcontainer).mpr hruns⟩
    rw [List.countP_cons_of_pos hv]
    omega

theorem passes_cons_container {v : Json} {vs : List Json} (hv : v.isContainer = true)
    (hoperation : v.isOperation = false) :
    Passes limit fallback depth nesting position (v :: vs) ↔
      v.Admitted fallback position ∧ nesting + 1 ≤ maxNesting ∧
        Passes limit fallback depth (nesting + 1) .inSequence vs := by
  have hbelow : v.positionBelow = .inSequence := by
    rw [positionBelow, hoperation, if_neg Bool.false_ne_true]
  have hskip : (v :: vs).countP isOperation = vs.countP isOperation :=
    List.countP_cons_of_neg (by simp [hoperation])
  refine ⟨?_, ?_⟩
  · intro h
    obtain ⟨⟨hadmitted, hrest⟩, hcount, hruns⟩ := h
    obtain ⟨hle, hruns⟩ := (runsFrom_cons_container hv).mp hruns
    exact ⟨hadmitted, hle, hbelow ▸ hrest, hskip ▸ hcount, hruns⟩
  · intro h
    obtain ⟨hadmitted, hle, hrest, hcount, hruns⟩ := h
    exact ⟨⟨hadmitted, hbelow ▸ hrest⟩, hskip ▸ hcount,
      (runsFrom_cons_container hv).mpr ⟨hle, hruns⟩⟩

theorem admitted_of_not_object {v : Json} (hv : ∀ members, v ≠ .object members) :
    v.Admitted fallback position where
  oneKey := fun members h => absurd h (hv members)
  operands := fun members h => absurd h (hv members)
  field := fun _ members h => absurd h (hv members)

theorem passes_literal {j : Json} {s : Scalar} (hs : Scalar.ofJson j = .ok s) :
    Passes limit fallback depth nesting position [j] := by
  have hv : ∀ members, j ≠ .object members := by
    intro members h
    subst h
    cases hs
  exact ⟨⟨admitted_of_not_object hv, trivial⟩, by simp [isOperation_literal hs],
    (runsFrom_cons_of_not_container (isContainer_literal hs)).mpr (runsFrom_nil 0)⟩

theorem passes_array {items vs : List Json} :
    Passes limit fallback depth nesting position (.array items :: vs) ↔
      nesting + 1 ≤ maxNesting ∧ Passes limit fallback depth (nesting + 1) .inSequence vs := by
  rw [passes_cons_container (isContainer_array items) (isOperation_array items)]
  exact and_iff_right (admitted_of_not_object fun members h => nomatch h)

theorem passes_operation {key : String} {op : Operator} {value : Json} {vs : List Json}
    (hop : Operator.ofToken? key = some op) :
    Passes limit fallback depth nesting position (.object [(key, value)] :: vs) ↔
      depth + 1 ≤ limit ∧ ¬ value.Hollow ∧
        Passes limit fallback (depth + 1) 0 .underOperator vs := by
  have hoperation : (Json.object [(key, value)]).isOperation = true := isOperation_of_some hop
  have hadmitted : (Json.object [(key, value)]).Admitted fallback position ↔ ¬ value.Hollow := by
    refine ⟨?_, ?_⟩
    · intro h
      exact h.operands _ rfl _ (List.mem_singleton.mpr rfl) (by simp [hop])
    · intro hsolid
      refine ⟨?_, ?_, ?_⟩
      · intro members hobject
        cases hobject
        rfl
      · intro members hobject m hm _
        cases hobject
        rw [List.mem_singleton.mp hm]
        exact hsolid
      · intro _ members hobject m hm hnone
        cases hobject
        rw [List.mem_singleton.mp hm, hop] at hnone
        cases hnone
  rw [passes_cons_operation hoperation (by rw [isContainer_object, hoperation, Bool.not_true]),
    hadmitted]
  exact and_left_comm

theorem passes_field {key : String} {value : Json} {vs : List Json}
    (hop : Operator.ofToken? key = none) :
    Passes limit fallback depth nesting position (.object [(key, value)] :: vs) ↔
      (fallback = .strict → position = .underOperator ∧ isFieldName key = true) ∧
        nesting + 1 ≤ maxNesting ∧
        Passes limit fallback depth (nesting + 1) .inSequence vs := by
  have hoperation : (Json.object [(key, value)]).isOperation = false := isOperation_of_none hop
  have hadmitted : (Json.object [(key, value)]).Admitted fallback position ↔
      (fallback = .strict → position = .underOperator ∧ isFieldName key = true) := by
    refine ⟨?_, ?_⟩
    · intro h hstrict
      exact (h.field hstrict _ rfl _ (List.mem_singleton.mpr rfl) hop).symm
    · intro hfield
      refine ⟨?_, ?_, ?_⟩
      · intro members hobject
        cases hobject
        rfl
      · intro members hobject m hm hsome
        cases hobject
        rw [List.mem_singleton.mp hm, hop] at hsome
        cases hsome
      · intro hstrict members hobject m hm _
        cases hobject
        rw [List.mem_singleton.mp hm]
        exact (hfield hstrict).symm
  rw [passes_cons_container (by rw [isContainer_object, hoperation, Bool.not_false]) hoperation,
    hadmitted]

end

end Json

open Json

/-! ## The induction -/

/-- **A part of a payload is accepted exactly when all its trails may be passed.** -/
theorem readPart_succeeds_iff {limit : Nat} {fallback : Fallback} {depth nesting : Nat}
    {position : Position} {j : Json} :
    (readPart limit fallback depth nesting position j).Succeeds ↔
      ∀ vs, Trail j vs → Passes limit fallback depth nesting position vs := by
  induction j using Json.induction generalizing depth nesting position with
  | literal j s hs =>
    rw [readPart_literal hs, forall_trail_literal hs]
    exact iff_of_true (Attempt.succeeds_ok _) (passes_literal hs)
  | array items ih =>
    -- the list is a trail by itself, so its own check does not get lost if it has no items
    rw [readPart_array_succeeds_iff, forall_trail_array]
    simp only [passes_array]
    refine ⟨?_, ?_⟩
    · intro h
      obtain ⟨hle, hitems⟩ := h
      exact ⟨⟨hle, passes_nil⟩, fun x hx vs ht => ⟨hle, (ih x hx).mp (hitems x hx) vs ht⟩⟩
    · intro h
      obtain ⟨⟨hle, -⟩, hitems⟩ := h
      exact ⟨hle, fun x hx => (ih x hx).mpr fun vs ht => (hitems x hx vs ht).2⟩
  | object members ih =>
    by_cases hlen : members.length = 1
    · obtain ⟨⟨key, value⟩, rfl⟩ := List.length_eq_one_iff.mp hlen
      have ih := @ih (key, value) (List.mem_singleton.mpr rfl)
      rw [forall_trail_object]
      cases hop : Operator.ofToken? key with
      | some op =>
        rw [readPart_operation_succeeds_iff hop, ih]
        simp only [passes_operation hop, List.forall_mem_singleton]
        refine ⟨?_, ?_⟩
        · intro h
          obtain ⟨hle, hsolid, hvalue⟩ := h
          exact ⟨⟨hle, hsolid, passes_nil⟩, fun vs ht => ⟨hle, hsolid, hvalue vs ht⟩⟩
        · intro h
          obtain ⟨⟨hle, hsolid, -⟩, hvalue⟩ := h
          exact ⟨hle, hsolid, fun vs ht => (hvalue vs ht).2.2⟩
      | none =>
        rw [readPart_field_succeeds_iff hop, ih]
        simp only [passes_field hop, List.forall_mem_singleton]
        refine ⟨?_, ?_⟩
        · intro h
          obtain ⟨hfield, hle, hvalue⟩ := h
          exact ⟨⟨hfield, hle, passes_nil⟩, fun vs ht => ⟨hfield, hle, hvalue vs ht⟩⟩
        · intro h
          obtain ⟨⟨hfield, hle, -⟩, hvalue⟩ := h
          exact ⟨hfield, hle, fun vs ht => (hvalue vs ht).2.2⟩
    · -- the object alone is a trail that may not be passed
      refine iff_of_false (not_succeeds_readPart_object hlen) fun h => ?_
      exact hlen ((h _ (.here _)).admitted.1.oneKey members rfl)

namespace Json

/-! ## The grammar, without counters -/

/-- The payload is an object that describes a filter of at most the given depth. -/
structure Conforms (limit : Nat) (j : Json) : Prop where
  /-- It is an object. -/
  isObject : ∃ members, j = .object members
  /-- Every object has exactly one key. -/
  oneKey : ∀ members, j.Inside (.object members) → members.length = 1
  /-- Nothing that stands under an operator key is made of empty lists alone. -/
  operands : ∀ members key value, j.Inside (.object members) → (key, value) ∈ members →
    (Operator.ofToken? key).isSome = true → ¬ value.Hollow
  /-- No trail has more operations than the limit. -/
  depth : ∀ vs, Trail j vs → vs.countP isOperation ≤ limit
  /-- No trail has more than eight containers one after the other. -/
  nesting : ∀ vs run, Trail j vs → run <:+: vs → (∀ v ∈ run, v.isContainer = true) →
    run.length ≤ 8

/-- Every key that spells no operator is a field name, and its object comes directly after an
operation on every trail, so it is neither the root nor in a list nor under a field. -/
def FieldsUnderOperators (j : Json) : Prop :=
  ∀ above members below, Trail j (above ++ .object members :: below) →
    ∀ key value, (key, value) ∈ members → Operator.ofToken? key = none →
      isFieldName key = true ∧
        ∃ above' operation, above = above' ++ [operation] ∧ operation.isOperation = true

/-- Where the value after others stands, if the first of them stands at `position`. -/
def positionAfter (position : Position) (above : List Json) : Position :=
  above.foldl (fun _ v => v.positionBelow) position

theorem positionAfter_root_iff {above : List Json} :
    positionAfter .root above = .underOperator ↔
      ∃ above' operation, above = above' ++ [operation] ∧ operation.isOperation = true := by
  rcases List.eq_nil_or_concat above with rfl | ⟨above', v, rfl⟩
  · refine ⟨?_, ?_⟩
    · intro h
      cases h
    · intro h
      obtain ⟨above', operation, h, -⟩ := h
      exact absurd h.symm (by simp)
  · rw [List.concat_eq_append, positionAfter, List.foldl_append]
    show v.positionBelow = .underOperator ↔ _
    rw [positionBelow]
    refine ⟨?_, ?_⟩
    · intro h
      refine ⟨above', v, rfl, ?_⟩
      cases hv : v.isOperation with
      | true => rfl
      | false => rw [hv, if_neg Bool.false_ne_true] at h; cases h
    · intro h
      obtain ⟨above'', operation, h, hoperation⟩ := h
      obtain ⟨-, h⟩ := List.append_inj' h rfl
      obtain ⟨rfl, -⟩ := List.cons.inj h
      rw [if_pos hoperation]

theorem admittedFrom_iff {fallback : Fallback} {position : Position} {vs : List Json} :
    AdmittedFrom fallback position vs ↔
      ∀ above v below, vs = above ++ v :: below →
        v.Admitted fallback (positionAfter position above) := by
  induction vs generalizing position with
  | nil =>
    refine iff_of_true trivial fun above v below h => ?_
    exact absurd h.symm (by simp)
  | cons u vs ih =>
    rw [AdmittedFrom, ih]
    refine ⟨?_, ?_⟩
    · intro hall above v below h
      obtain ⟨hu, hvs⟩ := hall
      cases above with
      | nil =>
        obtain ⟨rfl, rfl⟩ := List.cons.inj h
        exact hu
      | cons w above =>
        obtain ⟨rfl, rfl⟩ := List.cons.inj h
        exact hvs above v below rfl
    · intro h
      refine ⟨h [] u vs rfl, fun above v below hvs => ?_⟩
      exact h (u :: above) v below (by rw [hvs]; rfl)

section

variable {limit : Nat} {fallback : Fallback} {j : Json}

theorem admitted_of_inside (h : ∀ vs, Trail j vs → Passes limit fallback 0 0 .root vs) {v : Json}
    (hinside : j.Inside v) : ∃ position, v.Admitted fallback position := by
  obtain ⟨vs, ht, hv⟩ := hinside
  obtain ⟨above, below, rfl⟩ := List.append_of_mem hv
  exact ⟨_, admittedFrom_iff.mp (h _ ht).admitted above v below rfl⟩

theorem conforms_of_passes (hobject : ∃ members, j = .object members)
    (h : ∀ vs, Trail j vs → Passes limit fallback 0 0 .root vs) : j.Conforms limit where
  isObject := hobject
  oneKey := by
    intro members hinside
    obtain ⟨position, hv⟩ := admitted_of_inside h hinside
    exact hv.oneKey members rfl
  operands := by
    intro members key value hinside hm
    obtain ⟨position, hv⟩ := admitted_of_inside h hinside
    exact hv.operands members rfl (key, value) hm
  depth := fun vs ht => (h vs ht).operations
  nesting := fun vs run ht => runsFrom_zero_iff.mp (h vs ht).runs run

theorem fieldsUnderOperators_of_passes (hstrict : fallback = .strict)
    (h : ∀ vs, Trail j vs → Passes limit fallback 0 0 .root vs) : j.FieldsUnderOperators := by
  intro above members below ht key value hm hop
  -- on this trail the position of the object is decided by what stands above it
  have hv := admittedFrom_iff.mp (h _ ht).admitted above _ below rfl
  obtain ⟨hname, hposition⟩ := hv.field hstrict members rfl (key, value) hm hop
  exact ⟨hname, positionAfter_root_iff.mp hposition⟩

theorem passes_of_conforms (h : j.Conforms limit)
    (hfields : fallback = .strict → j.FieldsUnderOperators) {vs : List Json} (ht : Trail j vs) :
    Passes limit fallback 0 0 .root vs where
  admitted := by
    refine admittedFrom_iff.mpr fun above v below hvs => ?_
    subst hvs
    have hinside : j.Inside v := ⟨_, ht, by simp⟩
    refine ⟨?_, ?_, ?_⟩
    · intro members hobject
      subst hobject
      exact h.oneKey members hinside
    · intro members hobject m hm
      subst hobject
      exact h.operands members m.1 m.2 hinside hm
    · intro hstrict members hobject m hm hop
      subst hobject
      obtain ⟨hname, hparent⟩ := hfields hstrict above members below ht m.1 m.2 hm hop
      exact ⟨hname, positionAfter_root_iff.mpr hparent⟩
  operations := h.depth vs ht
  runs := runsFrom_zero_iff.mpr fun run hrun hall => h.nesting vs run ht hrun hall

/-- All trails may be passed from the root exactly if the payload conforms to the grammar. -/
theorem passes_root_iff :
    (∃ members, j = .object members) ∧
        (∀ vs, Trail j vs → Passes limit fallback 0 0 .root vs) ↔
      j.Conforms limit ∧ (fallback = .strict → j.FieldsUnderOperators) := by
  refine ⟨?_, ?_⟩
  · intro h
    exact ⟨conforms_of_passes h.1 h.2, fun hstrict => fieldsUnderOperators_of_passes hstrict h.2⟩
  · intro h
    exact ⟨h.1.isObject, fun vs ht => passes_of_conforms h.1 h.2 ht⟩

end

end Json

theorem readPayload_succeeds_iff {limit : Nat} {fallback : Fallback} {j : Json} :
    (readPayload limit fallback j).Succeeds ↔
      j.Conforms limit ∧ (fallback = .strict → j.FieldsUnderOperators) := by
  rw [readPayload_succeeds_iff_readPart, readPart_succeeds_iff, passes_root_iff]

/-- Under the strict fallback nothing but an operation is accepted. -/
theorem isOperation_of_strict {limit : Nat} {j : Json} {e : Expression}
    (h : (readPayload limit .strict j).outcome = .ok e) : j.isOperation = true := by
  obtain ⟨hconforms, hfields⟩ := readPayload_succeeds_iff.mp ⟨e, h⟩
  obtain ⟨members, rfl⟩ := hconforms.isObject
  obtain ⟨⟨key, value⟩, rfl⟩ := List.length_eq_one_iff.mp
    (hconforms.oneKey members ⟨_, .here _, List.mem_singleton.mpr rfl⟩)
  cases hop : Operator.ofToken? key with
  | some op => exact Json.isOperation_of_some hop
  | none =>
    -- nothing stands above the root, so no operation does
    obtain ⟨-, above, operation, habove, -⟩ :=
      hfields rfl [] _ [] (.here _) key value (List.mem_singleton.mpr rfl) hop
    exact absurd habove.symm (by simp)

/-- **The reader accepts exactly the grammar**, with fields anywhere or only under operators. -/
theorem accepts_iff_conforms (limit : Nat) (j : Json) :
    ((readPayload limit .permissive j).Succeeds ↔ j.Conforms limit) ∧
      ((readPayload limit .strict j).Succeeds ↔ j.Conforms limit ∧ j.FieldsUnderOperators) := by
  refine ⟨?_, ?_⟩
  · rw [readPayload_succeeds_iff]
    exact and_iff_left fun h => nomatch h
  · rw [readPayload_succeeds_iff]
    exact and_congr_right fun _ => ⟨fun h => h rfl, fun h _ => h⟩

end MailFilter
