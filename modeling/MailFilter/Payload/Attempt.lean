import MailFilter.Rendering.Basic

/-!
# Attempts that leave warnings behind

Reading a payload either yields something or fails for a reason, and on the way it may warn
about keys. The warnings do not depend on how the attempt ends: what was said before a failure
stays said. In a sequence of attempts the warnings are those of the first followed by those of
the second, and the second is not made if the first fails.
-/

namespace MailFilter

/-- Why a payload is refused. -/
inductive PayloadError where
  | unrecognizedOperator (token : String)
  | misplacedField (key : String)
  | notAnExpression
  | emptyObject
  | multipleKeys (keys : String)
  | noOperands (key : String)
  | depthExceeded (limit : Nat)
  | nestingExceeded (limit : Nat)
  | unexpectedNode (kind : String)
deriving DecidableEq, Repr

/-- The text shown for a refused payload. -/
def PayloadError.message : PayloadError → String
  | unrecognizedOperator token => "Unrecognized operator token '" ++ token ++ "'"
  | misplacedField key => "Field name '" ++ key ++ "' is only allowed directly under an operator"
  | notAnExpression => "Filter payload does not describe an expression"
  | emptyObject => "Empty object in filter payload"
  | multipleKeys keys =>
    "Object with multiple keys (" ++ keys ++ "); use a sequence for multiple operands"
  | noOperands key => "Operator '" ++ key ++ "' has no operands"
  | depthExceeded limit => "Filter nesting exceeds the maximum depth of " ++ toString limit
  | nestingExceeded limit =>
    "More than " ++ toString limit ++ " nested arrays or field objects without an operator"
  | unexpectedNode kind => "Unexpected node type: " ++ kind

/-- A rendering error met while a payload is read. -/
def PayloadError.ofRender : RenderError → PayloadError
  | .depthExceeded limit => .depthExceeded limit
  | .unexpectedNode kind => .unexpectedNode kind

/-- What came of reading a part of a payload, and the keys that were warned about on the way. -/
structure Attempt (α : Type) where
  warnings : List String
  outcome : Except PayloadError α

namespace Attempt

/-- Succeeds without a warning. -/
def ok {α : Type} (a : α) : Attempt α := ⟨[], .ok a⟩

/-- Fails without a warning. -/
def fail {α : Type} (e : PayloadError) : Attempt α := ⟨[], .error e⟩

/-- Warns about a key. -/
def warn (key : String) : Attempt Unit := ⟨[key], .ok ()⟩

/-- Goes on with the result of the first attempt, if there is one. -/
def andThen {α β : Type} (x : Attempt α) (f : α → Attempt β) : Attempt β :=
  match x.outcome with
  | .ok a => ⟨x.warnings ++ (f a).warnings, (f a).outcome⟩
  | .error e => ⟨x.warnings, .error e⟩

instance : Monad Attempt where
  pure := ok
  bind := andThen

/-! ## How each step shows in the outcome and in the warnings -/

@[simp] theorem outcome_pure {α : Type} (a : α) : (pure a : Attempt α).outcome = .ok a := rfl

@[simp] theorem warnings_pure {α : Type} (a : α) : (pure a : Attempt α).warnings = [] := rfl

theorem outcome_bind {α β : Type} (x : Attempt α) (f : α → Attempt β) :
    (x >>= f).outcome =
      (match x.outcome with
       | .ok a => (f a).outcome
       | .error e => .error e) := by
  show (andThen x f).outcome = _
  unfold andThen
  cases x.outcome <;> rfl

theorem warnings_bind {α β : Type} (x : Attempt α) (f : α → Attempt β) :
    (x >>= f).warnings =
      (match x.outcome with
       | .ok a => x.warnings ++ (f a).warnings
       | .error _ => x.warnings) := by
  show (andThen x f).warnings = _
  unfold andThen
  cases x.outcome <;> rfl

theorem warnings_bind_eq_nil {α β : Type} {x : Attempt α} {f : α → Attempt β}
    (hx : x.warnings = []) (hf : ∀ a, (f a).warnings = []) : (x >>= f).warnings = [] := by
  rw [warnings_bind]
  cases x.outcome with
  | error e => exact hx
  | ok a => exact List.append_eq_nil_iff.mpr ⟨hx, hf a⟩

@[simp] theorem outcome_ok {α : Type} (a : α) : (ok a).outcome = .ok a := rfl

@[simp] theorem outcome_fail {α : Type} (e : PayloadError) :
    (fail e : Attempt α).outcome = .error e := rfl

/-- An attempt that gives a result without a warning is as if it had not been made. -/
theorem ok_bind {α β : Type} (a : α) (f : α → Attempt β) : (ok a >>= f) = f a := by
  show andThen (ok a) f = f a
  simp only [andThen, ok, List.nil_append]

/-- How a sequence of three attempts is grouped does not matter. -/
instance : LawfulMonad Attempt := LawfulMonad.mk' Attempt
  (by
    intro α x
    show andThen x ok = x
    obtain ⟨ws, _ | a⟩ := x
    · rfl
    · simp only [andThen, ok, List.append_nil])
  (by
    intro α β a f
    exact ok_bind a f)
  (by
    intro α β γ x f g
    show andThen (andThen x f) g = andThen x fun a => andThen (f a) g
    obtain ⟨ws, _ | a⟩ := x
    · rfl
    · cases hf : (f a).outcome <;> simp only [andThen, hf, List.append_assoc])

/-- What is done after an attempt matters only for the result that the attempt yields. -/
theorem bind_congr_of_outcome {α β : Type} {x : Attempt α} {f g : α → Attempt β}
    (h : ∀ a, x.outcome = .ok a → f a = g a) : (x >>= f) = (x >>= g) := by
  show andThen x f = andThen x g
  unfold andThen
  cases hx : x.outcome with
  | error e => rfl
  | ok a => simp only [h a hx]

/-! ## What a successful attempt is made of -/

/-- The attempt yields something. -/
def Succeeds {α : Type} (x : Attempt α) : Prop :=
  ∃ a, x.outcome = .ok a

@[simp] theorem succeeds_ok {α : Type} (a : α) : (ok a).Succeeds := ⟨a, rfl⟩

@[simp] theorem not_succeeds_fail {α : Type} (e : PayloadError) :
    ¬ (fail e : Attempt α).Succeeds := by
  rintro ⟨a, ha⟩
  exact absurd ha (by simp)

/-- A sequence yields something only through something that its first attempt yields. -/
theorem outcome_bind_eq_ok {α β : Type} {x : Attempt α} {f : α → Attempt β} {b : β} :
    (x >>= f).outcome = .ok b ↔ ∃ a, x.outcome = .ok a ∧ (f a).outcome = .ok b := by
  rw [outcome_bind]
  cases x.outcome with
  | error e => simp
  | ok a => simp

/-- It fails for the reason for which the first of its attempts to fail does. -/
theorem outcome_bind_eq_error {α β : Type} {x : Attempt α} {f : α → Attempt β}
    {error : PayloadError} :
    (x >>= f).outcome = .error error ↔
      x.outcome = .error error ∨ ∃ a, x.outcome = .ok a ∧ (f a).outcome = .error error := by
  rw [outcome_bind]
  cases x.outcome with
  | error e => simp
  | ok a => simp

/-- A sequence does so without a warning only if both attempts do. -/
theorem bind_eq_ok {α β : Type} {x : Attempt α} {f : α → Attempt β} {b : β} :
    x >>= f = ok b ↔ ∃ a, x = ok a ∧ f a = ok b := by
  constructor
  · intro h
    obtain ⟨a, ha, hf⟩ := outcome_bind_eq_ok.mp (congrArg outcome h)
    have hwarnings := congrArg warnings h
    rw [warnings_bind, ha] at hwarnings
    obtain ⟨hx, hfa⟩ := List.append_eq_nil_iff.mp hwarnings
    refine ⟨a, ?_, ?_⟩
    · show x = ⟨[], .ok a⟩
      rw [← hx, ← ha]
    · show f a = ⟨[], .ok b⟩
      rw [← hfa, ← hf]
  · rintro ⟨a, rfl, hf⟩
    rw [ok_bind, hf]

end Attempt

end MailFilter
