import MailFilter.Payload.Reading

/-!
# Ways down through a payload

What a payload may hold is said along its **trails**: a trail starts at the payload, goes from a
list to one of its items and from an object to the value of one of its members, and may stop
anywhere. Of the values on a trail two kinds matter. An **operation** is an object whose key
spells an operator; a **container** is a list, or an object with any other key.

Counting along trails is what the limits on payloads are about. The number of operations on the
trail with most of them is the payload's *operator depth*, and `operatorDepth_le_iff` is the
only thing said about that number here: it is bounded exactly when every trail is.
-/

namespace MailFilter.Json

/-- A property holds of every value if it holds of the literals, and of a list or an object
whenever it holds of what that holds. -/
@[elab_as_elim]
theorem induction {P : Json → Prop}
    (literal : ∀ (j : Json) (s : Scalar), Scalar.ofJson j = .ok s → P j)
    (array : ∀ items, (∀ x ∈ items, P x) → P (.array items))
    (object : ∀ members, (∀ m ∈ members, P m.2) → P (.object members)) : ∀ j, P j
  | .null => literal .null .null rfl
  | .bool b => literal (.bool b) (.bool b) rfl
  | .number n => literal (.number n) (.ofNumber n) rfl
  | .string s => literal (.string s) (.string s) rfl
  | .array items => array items fun x _ => induction literal array object x
  | .object members => object members fun m _ => induction literal array object m.2
termination_by j => sizeOf j
decreasing_by
  · have := List.sizeOf_lt_of_mem ‹x ∈ items›
    simp only [Json.array.sizeOf_spec]
    omega
  · have := List.sizeOf_lt_of_mem ‹m ∈ members›
    have : sizeOf m = 1 + sizeOf m.1 + sizeOf m.2 := by cases m; rfl
    simp only [Json.object.sizeOf_spec]
    omega

/-- The same with the objects told apart that a reader treats differently: without a member, an
operation, a field, or with several members. -/
@[elab_as_elim]
theorem partInduction {P : Json → Prop}
    (literal : ∀ (j : Json) (s : Scalar), Scalar.ofJson j = .ok s → P j)
    (array : ∀ items, (∀ x ∈ items, P x) → P (.array items))
    (empty : P (.object []))
    (operation : ∀ key op value, Operator.ofToken? key = some op → P value →
      P (.object [(key, value)]))
    (field : ∀ key value, Operator.ofToken? key = none → P value → P (.object [(key, value)]))
    (several : ∀ first second others, P (.object (first :: second :: others))) (j : Json) :
    P j := by
  induction j using Json.induction with
  | literal j s hs => exact literal j s hs
  | array items ih => exact array items ih
  | object members ih =>
    match members with
    | [] => exact empty
    | first :: second :: others => exact several first second others
    | [(key, value)] =>
      have hvalue := ih (key, value) (List.mem_singleton.mpr rfl)
      cases hop : Operator.ofToken? key with
      | some op => exact operation key op value hop hvalue
      | none => exact field key value hop hvalue

/-! ## Operations and containers -/

/-- The operator that the key of an object spells, if the object has a single key. -/
def operator? : Json → Option Operator
  | .object [(key, _)] => Operator.ofToken? key
  | _ => none

/-- Whether a value is an operator applied to what stands under its key. -/
def isOperation (j : Json) : Bool :=
  j.operator?.isSome

/-- Whether a value is a list, or an object whose key is no operator. -/
def isContainer : Json → Bool
  | .array _ => true
  | .object members => !(Json.object members).isOperation
  | _ => false

/-- A list of lists, of lists and so on, in which there is nothing else. -/
inductive Hollow : Json → Prop
  | array {items : List Json} : (∀ x ∈ items, Hollow x) → Hollow (.array items)

@[simp] theorem isOperation_array (items : List Json) : (Json.array items).isOperation = false :=
  rfl

@[simp] theorem isContainer_array (items : List Json) : (Json.array items).isContainer = true :=
  rfl

theorem isOperation_object_singleton (key : String) (value : Json) :
    (Json.object [(key, value)]).isOperation = (Operator.ofToken? key).isSome := rfl

theorem isOperation_of_some {key : String} {op : Operator} {value : Json}
    (h : Operator.ofToken? key = some op) : (Json.object [(key, value)]).isOperation = true := by
  rw [isOperation_object_singleton, h, Option.isSome_some]

theorem isOperation_of_none {key : String} {value : Json} (h : Operator.ofToken? key = none) :
    (Json.object [(key, value)]).isOperation = false := by
  rw [isOperation_object_singleton, h, Option.isSome_none]

theorem isContainer_object (members : List (String × Json)) :
    (Json.object members).isContainer = !(Json.object members).isOperation := rfl

theorem isOperation_literal {j : Json} {s : Scalar} (h : Scalar.ofJson j = .ok s) :
    j.isOperation = false := by
  cases j with
  | array => cases h
  | object => cases h
  | _ => rfl

theorem isContainer_literal {j : Json} {s : Scalar} (h : Scalar.ofJson j = .ok s) :
    j.isContainer = false := by
  cases j with
  | array => cases h
  | object => cases h
  | _ => rfl

theorem not_hollow_literal {j : Json} {s : Scalar} (h : Scalar.ofJson j = .ok s) :
    ¬ j.Hollow := by
  intro h
  obtain ⟨_⟩ := h
  cases h

theorem not_hollow_object (members : List (String × Json)) : ¬ (Json.object members).Hollow := by
  intro h
  cases h

theorem hollow_array_iff {items : List Json} :
    (Json.array items).Hollow ↔ ∀ x ∈ items, x.Hollow := by
  refine ⟨?_, ?_⟩
  · intro h
    obtain ⟨h⟩ := h
    exact h
  · exact Hollow.array

/-! ## Trails -/

/-- `Trail j vs`: the values `vs` are passed, in this order, on a way down from `j`. -/
inductive Trail : Json → List Json → Prop
  | here (j : Json) : Trail j [j]
  | item {items : List Json} {x : Json} {vs : List Json} :
      x ∈ items → Trail x vs → Trail (.array items) (.array items :: vs)
  | member {members : List (String × Json)} {m : String × Json} {vs : List Json} :
      m ∈ members → Trail m.2 vs → Trail (.object members) (.object members :: vs)

theorem Trail.head {j : Json} {vs : List Json} (h : Trail j vs) : ∃ below, vs = j :: below := by
  cases h with
  | here => exact ⟨_, rfl⟩
  | item => exact ⟨_, rfl⟩
  | member => exact ⟨_, rfl⟩

/-- A trail that ends at a value goes on with any trail from that value. -/
theorem Trail.append {j v : Json} {above vs : List Json} (h : Trail j (above ++ [v]))
    (hv : Trail v vs) : Trail j (above ++ vs) := by
  induction above generalizing j with
  | nil =>
    obtain ⟨below, hbelow⟩ := h.head
    obtain ⟨rfl, -⟩ := List.cons.inj hbelow
    exact hv
  | cons u above ih =>
    rw [List.cons_append] at h ⊢
    generalize hend : above ++ [v] = tail at h
    cases h with
    | here => exact absurd hend (by simp)
    | item hx ht => exact .item hx (ih (hend ▸ ht))
    | member hm ht => exact .member hm (ih (hend ▸ ht))

/-- The value stands somewhere within the payload, or is the payload. -/
def Inside (j v : Json) : Prop :=
  ∃ vs, Trail j vs ∧ v ∈ vs

/-- A literal is a trail by itself and starts no other. -/
theorem forall_trail_literal {j : Json} {s : Scalar} (h : Scalar.ofJson j = .ok s)
    {P : List Json → Prop} : (∀ vs, Trail j vs → P vs) ↔ P [j] := by
  refine ⟨?_, ?_⟩
  · intro hall
    exact hall [j] (.here j)
  · intro hj vs ht
    cases ht with
    | here => exact hj
    | item => cases h
    | member => cases h

/-- The trails of a list are the list alone, and the list in front of a trail of an item. -/
theorem forall_trail_array {items : List Json} {P : List Json → Prop} :
    (∀ vs, Trail (.array items) vs → P vs) ↔
      P [.array items] ∧ ∀ x ∈ items, ∀ vs, Trail x vs → P (.array items :: vs) := by
  refine ⟨?_, ?_⟩
  · intro hall
    exact ⟨hall _ (.here _), fun x hx vs ht => hall _ (.item hx ht)⟩
  · intro h vs ht
    obtain ⟨hhere, hitem⟩ := h
    cases ht with
    | here => exact hhere
    | item hx ht => exact hitem _ hx _ ht

theorem forall_trail_object {members : List (String × Json)} {P : List Json → Prop} :
    (∀ vs, Trail (.object members) vs → P vs) ↔
      P [.object members] ∧ ∀ m ∈ members, ∀ vs, Trail m.2 vs → P (.object members :: vs) := by
  refine ⟨?_, ?_⟩
  · intro hall
    exact ⟨hall _ (.here _), fun m hm vs ht => hall _ (.member hm ht)⟩
  · intro h vs ht
    obtain ⟨hhere, hmember⟩ := h
    cases ht with
    | here => exact hhere
    | member hm ht => exact hmember _ hm _ ht

/-! ## The operator depth is the greatest number of operations on a trail -/

mutual

/-- The greatest number of operations on a trail. -/
def operatorDepth : Json → Nat
  | .array items => operatorDepthOfItems items
  | .object members =>
    (if (Json.object members).isOperation then 1 else 0) + operatorDepthOfMembers members
  | _ => 0

/-- The greatest operator depth in a list. -/
def operatorDepthOfItems : List Json → Nat
  | [] => 0
  | x :: xs => max x.operatorDepth (operatorDepthOfItems xs)

/-- The greatest operator depth among the values of members. -/
def operatorDepthOfMembers : List (String × Json) → Nat
  | [] => 0
  | (_, x) :: ms => max x.operatorDepth (operatorDepthOfMembers ms)

end

theorem operatorDepth_literal {j : Json} {s : Scalar} (h : Scalar.ofJson j = .ok s) :
    j.operatorDepth = 0 := by
  cases j with
  | array => cases h
  | object => cases h
  | _ => rfl

theorem operatorDepth_array (items : List Json) :
    (Json.array items).operatorDepth = operatorDepthOfItems items := by
  rw [operatorDepth]

theorem operatorDepth_object_singleton (key : String) (value : Json) :
    (Json.object [(key, value)]).operatorDepth =
      (if (Operator.ofToken? key).isSome then 1 else 0) + value.operatorDepth := by
  rw [operatorDepth, isOperation_object_singleton, operatorDepthOfMembers, operatorDepthOfMembers,
    Nat.max_zero]

theorem operatorDepthOfItems_le_iff {items : List Json} {d : Nat} :
    operatorDepthOfItems items ≤ d ↔ ∀ x ∈ items, x.operatorDepth ≤ d := by
  induction items with
  | nil => simp [operatorDepthOfItems]
  | cons x xs ih => rw [operatorDepthOfItems, Nat.max_le, ih, List.forall_mem_cons]

theorem operatorDepthOfMembers_le_iff {members : List (String × Json)} {d : Nat} :
    operatorDepthOfMembers members ≤ d ↔ ∀ m ∈ members, m.2.operatorDepth ≤ d := by
  induction members with
  | nil => simp [operatorDepthOfMembers]
  | cons m ms ih => rw [operatorDepthOfMembers, Nat.max_le, ih, List.forall_mem_cons]

/-- **The operator depth is bounded exactly when every trail is.** -/
theorem operatorDepth_le_iff {j : Json} {d : Nat} :
    j.operatorDepth ≤ d ↔ ∀ vs, Trail j vs → vs.countP isOperation ≤ d := by
  induction j using Json.induction generalizing d with
  | literal j s hs =>
    rw [forall_trail_literal hs, operatorDepth_literal hs, List.countP_singleton,
      isOperation_literal hs]
    simp
  | array items ih =>
    rw [forall_trail_array, operatorDepth_array, operatorDepthOfItems_le_iff]
    simp only [List.countP_cons, isOperation_array, List.countP_nil, Bool.false_eq_true, if_false,
      Nat.add_zero, Nat.zero_le, true_and]
    exact forall₂_congr fun x hx => ih x hx
  | object members ih =>
    rw [forall_trail_object, operatorDepth]
    simp only [List.countP_cons, List.countP_nil, Nat.zero_add]
    cases (Json.object members).isOperation with
    | false =>
      simp only [Bool.false_eq_true, if_false, Nat.zero_add, Nat.add_zero, Nat.zero_le, true_and]
      rw [operatorDepthOfMembers_le_iff]
      exact forall₂_congr fun m hm => ih m hm
    | true =>
      simp only [if_true]
      refine ⟨?_, ?_⟩
      · intro h
        refine ⟨by omega, fun m hm vs ht => ?_⟩
        have hm' := operatorDepthOfMembers_le_iff.mp (show _ ≤ d - 1 by omega) m hm
        have := (ih m hm).mp hm' vs ht
        omega
      · intro h
        obtain ⟨hd, hall⟩ := h
        have : operatorDepthOfMembers members ≤ d - 1 := by
          refine operatorDepthOfMembers_le_iff.mpr fun m hm => (ih m hm).mpr fun vs ht => ?_
          have := hall m hm vs ht
          omega
        omega

end MailFilter.Json
