import MailFilter.Proofs.Agreement

/-!
# What is warned about

Under the permissive fallback a key that looks like a mistyped operator is taken for a field, and
the reader warns about it. The warnings are not part of what a reading yields: they are left behind
on the way, also by a reading that fails further on. So what can be said of them is said of every
attempt, whether it succeeds or not: **a reading that succeeds has warned about all suspect keys of
the payload, in their order and once for each time they occur, and any reading about a first part of
them** (`warnsOf_readPart`). One statement about sequences of attempts carries this through the
reader: the second attempt is only made when the warnings of the first are complete.

The strict fallback never warns. What it does instead is to refuse: a payload with a key that the
permissive fallback warns about is refused for a key.
-/

namespace MailFilter

open Json Attempt

/-! ## The keys of a payload -/

namespace Json

mutual

/-- The keys of all objects in a value, each in front of the keys of what stands under it. -/
def keys : Json → List String
  | .null => []
  | .bool _ => []
  | .number _ => []
  | .string _ => []
  | .array items => keysOfItems items
  | .object members => keysOfMembers members

/-- The keys in the items of a list. -/
def keysOfItems : List Json → List String
  | [] => []
  | x :: xs => x.keys ++ keysOfItems xs

/-- The keys of members, and those in what stands under them. -/
def keysOfMembers : List (String × Json) → List String
  | [] => []
  | (key, x) :: ms => key :: (x.keys ++ keysOfMembers ms)

end

theorem keys_literal {j : Json} {s : Scalar} (h : Scalar.ofJson j = .ok s) : j.keys = [] := by
  cases j with
  | array => cases h
  | object => cases h
  | _ => rfl

theorem keys_object_singleton (key : String) (value : Json) :
    (Json.object [(key, value)]).keys = key :: value.keys := by
  rw [keys, keysOfMembers, keysOfMembers, List.append_nil]

end Json

/-- The key spells no operator but has a character of one. -/
def SuspectKey (key : String) : Prop :=
  Operator.ofToken? key = none ∧ ∃ c ∈ key.toList, c ∈ operatorSymbols

theorem suspectKey_iff (key : String) :
    SuspectKey key ↔ Operator.ofToken? key = none ∧ looksLikeOperator key = true := by
  rw [looksLikeOperator_eq_true_iff]
  rfl

-- not by search, which may well go through all characters there are
instance : DecidablePred SuspectKey :=
  fun key => decidable_of_decidable_of_iff (suspectKey_iff key).symm

/-- The suspect keys of a payload, in the order in which they stand in it. -/
def Json.suspectKeys (j : Json) : List String :=
  j.keys.filter fun key => decide (SuspectKey key)

namespace Json

theorem suspectKeys_array (items : List Json) :
    (Json.array items).suspectKeys = items.flatMap suspectKeys := by
  show (keysOfItems items).filter _ = _
  induction items with
  | nil => rfl
  | cons x xs ih => rw [keysOfItems, List.filter_append, ih, List.flatMap_cons, suspectKeys]

/-- An operator is not suspect. -/
theorem suspectKeys_operation {key : String} {op : Operator} (value : Json)
    (h : Operator.ofToken? key = some op) :
    (Json.object [(key, value)]).suspectKeys = value.suspectKeys := by
  have hkey : ¬ SuspectKey key := by
    intro hsuspect
    rw [hsuspect.1] at h
    cases h
  rw [suspectKeys, keys_object_singleton, List.filter_cons_of_neg (by simp [hkey]), suspectKeys]

theorem suspectKeys_field {key : String} (value : Json) (h : Operator.ofToken? key = none) :
    (Json.object [(key, value)]).suspectKeys =
      (if looksLikeOperator key then [key] else []) ++ value.suspectKeys := by
  rw [suspectKeys, keys_object_singleton, ← List.singleton_append, List.filter_append, suspectKeys]
  by_cases hlooks : looksLikeOperator key = true
  · have hkey : SuspectKey key := (suspectKey_iff key).mpr ⟨h, hlooks⟩
    rw [if_pos hlooks, List.filter_cons_of_pos (by simp [hkey]), List.filter_nil]
  · have hkey : ¬ SuspectKey key := fun hsuspect =>
      hlooks ((suspectKey_iff key).mp hsuspect).2
    rw [if_neg hlooks, List.filter_cons_of_neg (by simp [hkey]), List.filter_nil]

end Json

/-! ## Attempts that warn of keys -/

namespace Attempt

variable {α β : Type} {warned later : List String}

/-- The attempt warns of these keys: of all of them if it yields something, and if it fails of a
first part of them. -/
structure WarnsOf (warned : List String) (x : Attempt α) : Prop where
  /-- Where something is yielded, all warnings have been given. -/
  all : ∀ a, x.outcome = .ok a → x.warnings = warned
  /-- Nothing else is warned of, and nothing is passed over. -/
  start : x.warnings <+: warned

theorem warnsOf_ok (a : α) : WarnsOf [] (ok a) where
  all := fun _ _ => rfl
  start := List.prefix_rfl

/-- A failure may come before any warning. -/
theorem warnsOf_fail (warned : List String) (e : PayloadError) :
    WarnsOf warned (fail e : Attempt α) where
  all := fun _ h => nomatch h
  start := List.nil_prefix

theorem warnsOf_of_warnings {x : Attempt α} (h : x.warnings = []) : WarnsOf [] x where
  all := fun _ _ => h
  start := List.prefix_nil.mpr h

/-- **Sequences warn of the keys of the first attempt and then of those of the second.** -/
theorem WarnsOf.bind {x : Attempt α} {f : α → Attempt β} (hx : WarnsOf warned x)
    (hf : ∀ a, WarnsOf later (f a)) : WarnsOf (warned ++ later) (x >>= f) where
  all := by
    intro b hb
    obtain ⟨a, ha, hb⟩ := outcome_bind_eq_ok.mp hb
    rw [warnings_bind, ha]
    show x.warnings ++ (f a).warnings = _
    rw [hx.all a ha, (hf a).all b hb]
  start := by
    rw [warnings_bind]
    cases hout : x.outcome with
    | error e =>
      -- the second attempt is not made
      exact hx.start.trans (List.prefix_append warned later)
    | ok a =>
      show x.warnings ++ (f a).warnings <+: _
      rw [hx.all a hout]
      exact (List.prefix_append_right_inj warned).mpr (hf a).start

/-- What is done with the result in silence adds nothing. -/
theorem WarnsOf.bind_silent {x : Attempt α} {f : α → Attempt β} (hx : WarnsOf warned x)
    (hf : ∀ a, (f a).warnings = []) : WarnsOf warned (x >>= f) := by
  have h := hx.bind fun a => warnsOf_of_warnings (hf a)
  rwa [List.append_nil] at h

/-- What was done in silence before adds nothing. -/
theorem WarnsOf.silent_bind {x : Attempt α} {f : α → Attempt β} (hx : x.warnings = [])
    (hf : ∀ a, WarnsOf later (f a)) : WarnsOf later (x >>= f) := by
  have h := (warnsOf_of_warnings hx).bind hf
  rwa [List.nil_append] at h

end Attempt

/-! ## The permissive fallback warns of the suspect keys -/

section

variable {limit depth nesting : Nat} {position : Position}

theorem warnsOf_checkField (position : Position) (key : String) :
    WarnsOf (if looksLikeOperator key then [key] else [])
      (checkField .permissive position key) := by
  unfold checkField
  dsimp only
  by_cases hlooks : looksLikeOperator key = true
  · rw [if_pos hlooks, if_pos hlooks]
    exact ⟨fun _ _ => rfl, List.prefix_rfl⟩
  · rw [if_neg hlooks, if_neg hlooks]
    exact warnsOf_ok ()

theorem warnsOf_readItems {items : List Json}
    (IH : ∀ x ∈ items,
      WarnsOf x.suspectKeys (readPart limit .permissive depth nesting .inSequence x)) :
    WarnsOf (items.flatMap suspectKeys) (readItems limit .permissive depth nesting items) := by
  induction items with
  | nil => exact warnsOf_ok []
  | cons x xs ih =>
    obtain ⟨hx, hxs⟩ := List.forall_mem_cons.mp IH
    rw [readItems_cons, List.flatMap_cons]
    exact hx.bind fun part => (ih hxs).bind_silent fun os => rfl

/-- **A reading warns of the suspect keys**, of all of them if it succeeds. -/
theorem warnsOf_readPart {j : Json} :
    WarnsOf j.suspectKeys (readPart limit .permissive depth nesting position j) := by
  induction j using Json.partInduction generalizing depth nesting position with
  | literal j s hs =>
    rw [readPart_literal hs, suspectKeys, keys_literal hs]
    exact warnsOf_ok _
  | array items ih =>
    rw [readPart_array, suspectKeys_array]
    refine WarnsOf.silent_bind warnings_enterContainer fun inner => ?_
    exact (warnsOf_readItems fun x hx => ih x hx).bind_silent fun os => rfl
  | empty => exact warnsOf_fail _ _
  | several first second others => exact warnsOf_fail _ _
  | operation key op value hop ih =>
    rw [readPart_operation value hop, suspectKeys_operation value hop]
    by_cases hlt : limit < depth + 1
    · rw [if_pos hlt]
      exact warnsOf_fail _ _
    · rw [if_neg hlt]
      refine ih.bind_silent fun part => ?_
      exact warnings_bind_eq_nil (warnings_applyOperator key op _) fun e => rfl
  | field key value hop ih =>
    rw [readPart_field value hop, suspectKeys_field value hop]
    -- the key is warned of before anything below it is looked at
    refine (warnsOf_checkField position key).bind fun _ => ?_
    refine WarnsOf.silent_bind warnings_enterContainer fun inner => ?_
    exact ih.bind_silent fun part => rfl

theorem warnsOf_readPayload (limit : Nat) (payload : Json) :
    WarnsOf payload.suspectKeys (readPayload limit .permissive payload) := by
  rw [readPayload]
  refine warnsOf_readPart.bind_silent fun part => ?_
  unfold rootExpression
  split <;> rfl

end

/-- **The warnings are exact.** The strict fallback gives none. The permissive one warns of all
suspect keys of the payload, in their order and once for each time that they occur, if it accepts
the payload, and of a first part of them if it does not; and where it warns at all, the strict
fallback refuses the payload for a key. -/
theorem warnings_exact (limit : Nat) (payload : Json) :
    (readPayload limit .strict payload).warnings = [] ∧
      ((readPayload limit .permissive payload).Succeeds →
        (readPayload limit .permissive payload).warnings =
          payload.suspectKeys) ∧
      (readPayload limit .permissive payload).warnings <+: payload.suspectKeys ∧
      ((readPayload limit .permissive payload).warnings ≠ [] →
        ∃ error, (readPayload limit .strict payload).outcome = .error error ∧
          error.ConcernsKey) := by
  have hwarns := warnsOf_readPayload limit payload
  refine ⟨warnings_readPayload_strict, ?_, hwarns.start, ?_⟩
  · intro hsucceeds
    obtain ⟨e, he⟩ := hsucceeds
    exact hwarns.all e he
  · intro hne
    have hagree : AgreesUnless PayloadError.ConcernsKey (readPayload limit .strict payload)
        (readPayload limit .permissive payload) :=
      readPayload_agreesUnless (Nat.le_refl limit) (.inl rfl) checkField_agreesUnless
    rcases hagree with ⟨error, hconcerns, herror⟩ | hsame
    · exact ⟨error, herror, hconcerns⟩
    · rw [hsame] at hne
      exact absurd warnings_readPayload_strict hne

/-- Three keys that look like operators, the last two of them under a second operation. -/
def mistyped : Json :=
  .single "and" (.array [.single "=>" (.bool true),
    .single "!" (.array [.single "=>" (.single "a" .null), .single "x|y" (.array [])])])

/-- Under a limit of two all three are warned of, though one is there twice; under a limit of one
the reading fails before it comes to the last two. -/
theorem warnings_exact_mistyped :
    (readPayload 2 .permissive mistyped).Succeeds ∧
      (readPayload 2 .permissive mistyped).warnings = ["=>", "=>", "x|y"] ∧
      (readPayload 1 .permissive mistyped).warnings = ["=>"] ∧
      (readPayload 1 .permissive mistyped).warnings <+: ["=>", "=>", "x|y"] ∧
      ∃ error, (readPayload 2 .strict mistyped).outcome = .error error ∧ error.ConcernsKey := by
  have hkeys : mistyped.suspectKeys = ["=>", "=>", "x|y"] := by decide
  have hsucceeds : (readPayload 2 .permissive mistyped).Succeeds := ⟨_, by rfl⟩
  obtain ⟨-, hall, -, hrefused⟩ := warnings_exact 2 mistyped
  have hwarnings := (hall hsucceeds).trans hkeys
  have hstart := (warnings_exact 1 mistyped).2.2.1
  rw [hkeys] at hstart
  exact ⟨hsucceeds, hwarnings, by rfl, hstart, hrefused (by rw [hwarnings]; simp)⟩

end MailFilter
