import MailFilter.Proofs.Grammar
import MailFilter.Proofs.Refusal

/-!
# Two readers of one payload

What a reader does is settled by its limit and its fallback, and each of the two is looked at in
one check only. Two readers whose checks come out alike therefore read alike, with the same result
or the same refusal and with the same warnings; and if the checks of the first come out alike
unless they refuse, then so do the readings (`readPart_agreesUnless`). This is one induction, and
it is used twice.

* **The strict fallback is the permissive one with a check of keys**: unless a key is refused, both
  read alike.
* **The limit is a threshold**: unless the lower limit is exceeded, two limits read alike, and the
  lower one is exceeded exactly if it is below the depth.
-/

namespace MailFilter

open Json

/-- Any reason at all for which a payload is refused. -/
def PayloadError.Any (_ : PayloadError) : Prop := True

/-! ## Attempts that come out alike -/

namespace Attempt

variable {α β : Type} {reason : PayloadError → Prop}

/-- The second attempt comes out as the first does, warnings included, unless the first fails for
such a reason. -/
def AgreesUnless (reason : PayloadError → Prop) (x y : Attempt α) : Prop :=
  (∃ error, reason error ∧ x.outcome = .error error) ∨ y = x

theorem AgreesUnless.refl (x : Attempt α) : AgreesUnless reason x x :=
  .inr rfl

/-- Sequences come out alike if their first attempts do, and what is done with each result. -/
theorem AgreesUnless.bind {x y : Attempt α} {f g : α → Attempt β} (hxy : AgreesUnless reason x y)
    (hfg : ∀ a, AgreesUnless reason (f a) (g a)) : AgreesUnless reason (x >>= f) (y >>= g) := by
  rcases hxy with ⟨error, hreason, hx⟩ | rfl
  · exact .inl ⟨error, hreason, outcome_bind_eq_error.mpr (.inl hx)⟩
  · cases hy : y.outcome with
    | error e =>
      -- what would be done with a result is not done by either
      refine .inr (bind_congr_of_outcome fun a ha => ?_)
      rw [hy] at ha
      cases ha
    | ok a =>
      rcases hfg a with ⟨error, hreason, hf⟩ | hgf
      · exact .inl ⟨error, hreason, outcome_bind_eq_error.mpr (.inr ⟨a, hy, hf⟩)⟩
      · refine .inr (bind_congr_of_outcome fun a' ha' => ?_)
        obtain rfl := Except.ok.inj (hy.symm.trans ha')
        exact hgf

theorem AgreesUnless.eq_of_ok {x y : Attempt α} {a : α} (h : AgreesUnless reason x y)
    (hx : x.outcome = .ok a) : y = x := by
  rcases h with ⟨error, -, herror⟩ | hsame
  · rw [hx] at herror
    cases herror
  · exact hsame

/-- An attempt that fails asks nothing of any other. -/
theorem agreesUnless_of_error {x y : Attempt α} {error : PayloadError}
    (hx : x.outcome = .error error) : AgreesUnless PayloadError.Any x y :=
  .inl ⟨error, trivial, hx⟩

end Attempt

open Attempt

/-! ## Containers that are entered -/

section

variable {α : Type} {reason : PayloadError → Prop} {nesting : Nat}

theorem enterContainer_agreesUnless {f g : Nat → Attempt α}
    (h : nesting + 1 ≤ maxNesting → AgreesUnless reason (f (nesting + 1)) (g (nesting + 1))) :
    AgreesUnless reason (enterContainer nesting >>= f) (enterContainer nesting >>= g) := by
  by_cases hlt : maxNesting < nesting + 1
  · rw [enterContainer_fail hlt]
    exact .refl _
  · rw [enterContainer_ok (Nat.not_lt.mp hlt), ok_bind, ok_bind]
    exact h (Nat.not_lt.mp hlt)

/-- Without the container there is one reason less to fail. -/
theorem enterContainer_agreesUnless_any {f : Nat → Attempt α} {y : Attempt α}
    (h : nesting + 1 ≤ maxNesting → AgreesUnless PayloadError.Any (f (nesting + 1)) y) :
    AgreesUnless PayloadError.Any (enterContainer nesting >>= f) y := by
  by_cases hlt : maxNesting < nesting + 1
  · rw [enterContainer_fail hlt]
    exact agreesUnless_of_error rfl
  · rw [enterContainer_ok (Nat.not_lt.mp hlt), ok_bind]
    exact h (Nat.not_lt.mp hlt)

end

/-! ## Readers that come out alike -/

section

variable {limit limit' : Nat} {fallback fallback' : Fallback} {reason : PayloadError → Prop}

theorem readItems_agreesUnless {depth depth' nesting nesting' : Nat} {items : List Json}
    (IH : ∀ x ∈ items, AgreesUnless reason
      (readPart limit fallback depth nesting .inSequence x)
      (readPart limit' fallback' depth' nesting' .inSequence x)) :
    AgreesUnless reason (readItems limit fallback depth nesting items)
      (readItems limit' fallback' depth' nesting' items) := by
  induction items with
  | nil => exact .refl _
  | cons x xs ih =>
    obtain ⟨hx, hxs⟩ := List.forall_mem_cons.mp IH
    rw [readItems_cons, readItems_cons]
    exact hx.bind fun _ => (ih hxs).bind fun _ => .refl _

/-- **Readers agree if their checks do**: if the second accepts each level that the first accepts,
and the first refuses a level or a key that the second does not only for such a reason. -/
theorem readPart_agreesUnless (hle : limit ≤ limit')
    (hlimit : limit = limit' ∨ reason (.depthExceeded limit))
    (hkey : ∀ position key, AgreesUnless reason (checkField fallback position key)
      (checkField fallback' position key))
    {depth nesting : Nat} {position : Position} {j : Json} :
    AgreesUnless reason (readPart limit fallback depth nesting position j)
      (readPart limit' fallback' depth nesting position j) := by
  induction j using Json.partInduction generalizing depth nesting position with
  | literal j s hs =>
    rw [readPart_literal hs, readPart_literal hs]
    exact .refl _
  | array items ih =>
    rw [readPart_array, readPart_array]
    exact (AgreesUnless.refl _).bind fun _ =>
      (readItems_agreesUnless fun x hx => ih x hx).bind fun _ => .refl _
  | empty => exact .refl _
  | several first second others => exact .refl _
  | operation key op value hop ih =>
    rw [readPart_operation value hop, readPart_operation value hop]
    by_cases hlt : limit < depth + 1
    · rw [if_pos hlt]
      rcases hlimit with rfl | hreason
      · rw [if_pos hlt]
        exact .refl _
      · exact .inl ⟨_, hreason, rfl⟩
    · rw [if_neg hlt, if_neg (by omega)]
      exact ih.bind fun _ => .refl _
  | field key value hop ih =>
    rw [readPart_field value hop, readPart_field value hop]
    exact (hkey position key).bind fun _ => (AgreesUnless.refl _).bind fun _ =>
      ih.bind fun _ => .refl _

theorem readPayload_agreesUnless (hle : limit ≤ limit')
    (hlimit : limit = limit' ∨ reason (.depthExceeded limit))
    (hkey : ∀ position key, AgreesUnless reason (checkField fallback position key)
      (checkField fallback' position key)) {payload : Json} :
    AgreesUnless reason (readPayload limit fallback payload)
      (readPayload limit' fallback' payload) := by
  rw [readPayload, readPayload]
  exact (readPart_agreesUnless hle hlimit hkey).bind fun _ => .refl _

end

/-! ## Two fallbacks -/

section

variable {limit depth nesting : Nat} {position : Position}

theorem checkField_agreesUnless (position : Position) (key : String) :
    AgreesUnless PayloadError.ConcernsKey (checkField .strict position key)
      (checkField .permissive position key) := by
  unfold checkField
  dsimp only
  by_cases hlooks : looksLikeOperator key = true
  · rw [if_pos hlooks]
    exact .inl ⟨.unrecognizedOperator key, trivial, rfl⟩
  · rw [if_neg hlooks, if_neg hlooks]
    by_cases hplace : position = .underOperator ∧ isFieldName key = true
    · rw [if_pos hplace]
      exact .refl _
    · rw [if_neg hplace]
      exact .inl ⟨.misplacedField key, trivial, rfl⟩

theorem warnings_checkField_strict (position : Position) (key : String) :
    (checkField .strict position key).warnings = [] := by
  unfold checkField
  dsimp only
  split
  · rfl
  · split <;> rfl

theorem warnings_enterContainer : (enterContainer nesting).warnings = [] := by
  unfold enterContainer
  split <;> rfl

theorem warnings_applyOperator (key : String) (op : Operator) (os : List Operand) :
    (applyOperator key op os).warnings = [] := by
  cases os <;> rfl

theorem warnings_readItems_strict {items : List Json}
    (IH : ∀ x ∈ items, (readPart limit .strict depth nesting .inSequence x).warnings = []) :
    (readItems limit .strict depth nesting items).warnings = [] := by
  induction items with
  | nil => rfl
  | cons x xs ih =>
    obtain ⟨hx, hxs⟩ := List.forall_mem_cons.mp IH
    rw [readItems_cons]
    exact warnings_bind_eq_nil hx fun _ => warnings_bind_eq_nil (ih hxs) fun _ => rfl

/-- **Under the strict fallback there are no warnings**, whether the payload is accepted or not. -/
theorem warnings_readPart_strict {j : Json} :
    (readPart limit .strict depth nesting position j).warnings = [] := by
  induction j using Json.partInduction generalizing depth nesting position with
  | literal j s hs => rw [readPart_literal hs]; rfl
  | array items ih =>
    rw [readPart_array]
    exact warnings_bind_eq_nil warnings_enterContainer fun _ =>
      warnings_bind_eq_nil (warnings_readItems_strict fun x hx => ih x hx) fun _ => rfl
  | empty => rfl
  | several first second others => rfl
  | operation key op value hop ih =>
    rw [readPart_operation value hop]
    split
    · rfl
    · exact warnings_bind_eq_nil ih fun _ =>
        warnings_bind_eq_nil (warnings_applyOperator key op _) fun _ => rfl
  | field key value hop ih =>
    rw [readPart_field value hop]
    exact warnings_bind_eq_nil (warnings_checkField_strict position key) fun _ =>
      warnings_bind_eq_nil warnings_enterContainer fun _ =>
        warnings_bind_eq_nil ih fun _ => rfl

theorem warnings_readPayload_strict {payload : Json} :
    (readPayload limit .strict payload).warnings = [] := by
  rw [readPayload]
  refine warnings_bind_eq_nil warnings_readPart_strict fun part => ?_
  unfold rootExpression
  split <;> rfl

end

/-- **The strict fallback is the permissive one with a check of keys.** Unless it refuses a key,
the permissive fallback gives the same expression or the same error, without a warning; and the
permissive fallback refuses no key. -/
theorem strict_agrees_with_permissive (limit : Nat) (payload : Json) :
    ((∀ error, (readPayload limit .strict payload).outcome = .error error →
          ¬ error.ConcernsKey) →
        (readPayload limit .permissive payload).outcome =
            (readPayload limit .strict payload).outcome ∧
          (readPayload limit .permissive payload).warnings = []) ∧
      ∀ error, (readPayload limit .permissive payload).outcome = .error error →
        ¬ error.ConcernsKey := by
  refine ⟨?_, ?_⟩
  · intro hkey
    have hagree : AgreesUnless PayloadError.ConcernsKey (readPayload limit .strict payload)
        (readPayload limit .permissive payload) :=
      readPayload_agreesUnless (Nat.le_refl limit) (.inl rfl) checkField_agreesUnless
    rcases hagree with ⟨error, hconcerns, herror⟩ | hsame
    · exact absurd hconcerns (hkey error herror)
    · rw [hsame]
      exact ⟨rfl, warnings_readPayload_strict⟩
  · intro error herror
    rcases readPayload_eq_error herror with h | ⟨rfl, -⟩
    · exact not_concernsKey_of_permissive h
    · exact id

/-- A negated field, which both fallbacks accept, and a negation of nothing, which both refuse. -/
theorem strict_agrees_with_permissive_negation :
    ∃ accepted refused e,
      accepted = Json.single "and" (.array [.single "=" (.single "id" (.bool true)),
        .single "Not" (.single "seen" (.array []))]) ∧
      refused = Json.single "and" (.array [.single "=" (.single "id" (.bool true)),
        .single "Not" (.array [])]) ∧
      e = Expression.and (.nested (.eq (.field "id") (.value (.bool true))))
        (.nested (.not (.field "seen"))) ∧
      (∀ error, (readPayload 2 .strict accepted).outcome = .error error →
        ¬ error.ConcernsKey) ∧
      (readPayload 2 .permissive accepted).outcome = .ok e ∧
      (readPayload 2 .permissive accepted).warnings = [] ∧
      (∀ error, (readPayload 2 .strict refused).outcome = .error error →
        ¬ error.ConcernsKey) ∧
      (readPayload 2 .permissive refused).outcome = .error (.noOperands "Not") := by
  refine ⟨_, _, _, rfl, rfl, rfl, ?_⟩
  have haccepted : (readPayload 2 .strict (.single "and" (.array [
      .single "=" (.single "id" (.bool true)),
      .single "Not" (.single "seen" (.array []))]))).outcome =
        .ok (.and (.nested (.eq (.field "id") (.value (.bool true))))
          (.nested (.not (.field "seen")))) := by rfl
  have hrefused : (readPayload 2 .strict (.single "and" (.array [
      .single "=" (.single "id" (.bool true)), .single "Not" (.array [])]))).outcome =
        .error (.noOperands "Not") := by rfl
  have hkey : ∀ error, (readPayload 2 .strict (.single "and" (.array [
      .single "=" (.single "id" (.bool true)),
      .single "Not" (.single "seen" (.array []))]))).outcome =
        .error error → ¬ error.ConcernsKey := by
    intro error herror
    cases haccepted.symm.trans herror
  have hkey' : ∀ error, (readPayload 2 .strict (.single "and" (.array [
      .single "=" (.single "id" (.bool true)), .single "Not" (.array [])]))).outcome =
        .error error → ¬ error.ConcernsKey := by
    intro error herror
    obtain rfl := Except.error.inj (hrefused.symm.trans herror)
    exact id
  obtain ⟨houtcome, hwarnings⟩ := (strict_agrees_with_permissive 2 _).1 hkey
  obtain ⟨houtcome', -⟩ := (strict_agrees_with_permissive 2 _).1 hkey'
  exact ⟨hkey, houtcome.trans haccepted, hwarnings, hkey', houtcome'.trans hrefused⟩

/-! ## Two limits -/

section

variable {limit limit' : Nat} {fallback : Fallback} {payload : Json} {e : Expression}

/-- A greater limit changes nothing unless the lower one is exceeded. -/
theorem readPayload_eq_of_le (fallback : Fallback) (payload : Json) (hle : limit ≤ limit') :
    (readPayload limit fallback payload).outcome = .error (.depthExceeded limit) ∨
      readPayload limit' fallback payload = readPayload limit fallback payload := by
  have hagree : AgreesUnless (· = .depthExceeded limit) (readPayload limit fallback payload)
      (readPayload limit' fallback payload) := by
    refine readPayload_agreesUnless hle (.inr ?_) fun _ _ => .refl _
    rfl
  rcases hagree with ⟨error, rfl, herror⟩ | hsame
  · exact .inl herror
  · exact .inr hsame

/-- What is accepted under one limit is accepted under another exactly if it is not too deep. -/
theorem succeeds_iff_operatorDepth_le (h : (readPayload limit fallback payload).Succeeds) :
    (readPayload limit' fallback payload).Succeeds ↔ payload.operatorDepth ≤ limit' := by
  obtain ⟨hconforms, hfields⟩ := readPayload_succeeds_iff.mp h
  rw [readPayload_succeeds_iff, operatorDepth_le_iff]
  exact ⟨fun h' => h'.1.depth, fun hdepth => ⟨{ hconforms with depth := hdepth }, hfields⟩⟩

theorem readPayload_of_operatorDepth_le (h : (readPayload limit fallback payload).outcome = .ok e)
    (hdepth : payload.operatorDepth ≤ limit') :
    (readPayload limit' fallback payload).outcome = .ok e := by
  rcases Nat.le_total limit limit' with hle | hle
  · rcases readPayload_eq_of_le fallback payload hle with herror | hsame
    · rw [h] at herror
      cases herror
    · rw [hsame, h]
  · obtain ⟨e', h'⟩ := (succeeds_iff_operatorDepth_le ⟨e, h⟩).mpr hdepth
    rcases readPayload_eq_of_le fallback payload hle with herror | hsame
    · rw [h'] at herror
      cases herror
    · rw [← hsame, h]

theorem readPayload_of_lt_operatorDepth (h : (readPayload limit fallback payload).outcome = .ok e)
    (hdepth : limit' < payload.operatorDepth) :
    (readPayload limit' fallback payload).outcome = .error (.depthExceeded limit') := by
  -- the payload is not too deep for the limit that accepted it, so this one is lower
  have hwithin : payload.operatorDepth ≤ limit :=
    (succeeds_iff_operatorDepth_le ⟨e, h⟩).mp ⟨e, h⟩
  rcases readPayload_eq_of_le fallback payload (show limit' ≤ limit by omega) with herror | hsame
  · exact herror
  · rw [hsame] at h
    have := (succeeds_iff_operatorDepth_le ⟨e, h⟩).mp ⟨e, h⟩
    omega

end

/-- **The limit is a threshold.** A payload that is an operation and is accepted under some limit is
read as the same expression under every limit that is not below the depth of the expression, and
exceeds every limit that is; and an error other than that of a limit exceeded is the error under
every greater limit. -/
theorem limit_is_threshold (limit : Nat) (fallback : Fallback) (payload : Json) :
    (∀ e, payload.isOperation = true → (readPayload limit fallback payload).outcome = .ok e →
      ∀ limit',
        (e.depth ≤ limit' → (readPayload limit' fallback payload).outcome = .ok e) ∧
        (limit' < e.depth →
          (readPayload limit' fallback payload).outcome = .error (.depthExceeded limit'))) ∧
      ∀ error, (readPayload limit fallback payload).outcome = .error error →
        (∀ n, error ≠ .depthExceeded n) → ∀ limit', limit < limit' →
          (readPayload limit' fallback payload).outcome = .error error := by
  refine ⟨?_, ?_⟩
  · intro e hoperation h limit'
    have hdepth : e.depth = payload.operatorDepth := by
      rw [depth_readPayload h, if_pos hoperation, Nat.add_zero]
    rw [hdepth]
    exact ⟨readPayload_of_operatorDepth_le h, readPayload_of_lt_operatorDepth h⟩
  · intro error h hother limit' hlt
    rcases readPayload_eq_of_le fallback payload (Nat.le_of_lt hlt) with hexceeded | hsame
    · rw [h] at hexceeded
      exact absurd (Except.error.inj hexceeded) (hother limit)
    · rw [hsame, h]

/-- Two negations with a list between them, under the least limit that allows them and under one
that is too low, and a negation over a key that is no field name, under a limit that is higher than
it need be. -/
theorem limit_is_threshold_not_over_not :
    (readPayload 2 .strict (.single "not" (.array [.single "!" (.single "a" .null)]))).outcome =
        .ok (.not (.nested (.node .not (.field "a") [.value .null]))) ∧
      (readPayload 1 .strict (.single "not" (.array [.single "!" (.single "a" .null)]))).outcome =
        .error (.depthExceeded 1) ∧
      (readPayload 2 .strict (.single "!" (.single "" .null))).outcome =
        .error (.misplacedField "") := by
  have haccepted : (readPayload 9 .strict
      (.single "not" (.array [.single "!" (.single "a" .null)]))).outcome =
        .ok (.not (.nested (.node .not (.field "a") [.value .null]))) := by rfl
  have hmisplaced : (readPayload 1 .strict (.single "!" (.single "" .null))).outcome =
      .error (.misplacedField "") := by rfl
  have hthreshold := (limit_is_threshold 9 .strict _).1 _ (by rfl) haccepted
  exact ⟨(hthreshold 2).1 (by decide), (hthreshold 1).2 (by decide),
    (limit_is_threshold 1 .strict _).2 _ hmisplaced (fun _ h => nomatch h) 2 (by decide)⟩

end MailFilter
