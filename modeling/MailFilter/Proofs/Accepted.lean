import MailFilter.Proofs.Grammar
import MailFilter.Proofs.Limit

/-!
# Whether an accepted filter can be written again

Reader, renderers and export go by one limit and count depth in one unit, so a filter that was
accepted should be within the reach of all of them. It is, with one exception. A field at the root
stands for an equality, and **the operator of that equality is added after the limit was
checked**: the expression is one level deeper than the payload, and if the payload exhausts the
limit, the filter that was accepted can be neither rendered nor exported.

The strict fallback refuses fields at the root, so under it the exception does not arise.
-/

namespace MailFilter.Filter

variable {settings : FilterSettings} {payload : Json} {f : Filter}

theorem ofJson_eq_ok :
    (ofJson settings payload).outcome = .ok f ↔
      (readPayload settings.maxDepth settings.fallback payload).outcome = .ok f.expression := by
  rw [ofJson, Attempt.outcome_bind_eq_ok]
  refine ⟨?_, ?_⟩
  · intro h
    obtain ⟨e, he, h⟩ := h
    obtain rfl := Except.ok.inj h
    exact he
  · intro he
    exact ⟨f.expression, he, rfl⟩

/-! ## Within the limit everything can be written -/

theorem render_eq_ok_of_depth_le (h : f.expression.depth ≤ settings.maxDepth) :
    ∃ text, f.render settings = .ok text := by
  unfold render Dialect.render
  cases settings.dialect with
  | polish =>
    dsimp only
    rw [Expression.polish_eq]
    exact withinDepth_ok_iff.mpr h
  | searchQuery =>
    dsimp only
    rw [Expression.search_eq]
    exact withinDepth_ok_iff.mpr (Nat.le_trans f.expression.searchDepth_le h)

theorem toJson_eq_ok_iff : (∃ j, f.toJson settings = .ok j) ↔
    f.expression.depth ≤ settings.maxDepth := by
  rw [toJson, Expression.toPayload_eq]
  exact withinDepth_ok_iff

/-! ## What acceptance says about the depth -/

theorem operatorDepth_le_of_accepted (h : (ofJson settings payload).outcome = .ok f) :
    payload.operatorDepth ≤ settings.maxDepth := by
  have hconforms := (readPayload_succeeds_iff.mp ⟨_, ofJson_eq_ok.mp h⟩).1
  exact Json.operatorDepth_le_iff.mpr hconforms.depth

theorem isOperation_of_accepted_strict (hstrict : settings.fallback = .strict)
    (h : (ofJson settings payload).outcome = .ok f) : payload.isOperation = true := by
  have hread := ofJson_eq_ok.mp h
  rw [hstrict] at hread
  exact isOperation_of_strict hread

/-- **An accepted filter can be rendered and exported** under the settings that accepted it exactly
if its payload is an operation or does not exhaust the limit; under the strict fallback the payload
is an operation. -/
theorem accepted_writable_iff (h : (ofJson settings payload).outcome = .ok f) :
    (settings.fallback = .strict → payload.isOperation = true) ∧
      ((f.expression.depth ≤ settings.maxDepth ∧
          (∃ text, f.render settings = .ok text) ∧ ∃ j, f.toJson settings = .ok j) ↔
        payload.isOperation = true ∨ payload.operatorDepth < settings.maxDepth) := by
  refine ⟨fun hstrict => isOperation_of_accepted_strict hstrict h, ?_⟩
  have hwritable : (f.expression.depth ≤ settings.maxDepth ∧
      (∃ text, f.render settings = .ok text) ∧ ∃ j, f.toJson settings = .ok j) ↔
        f.expression.depth ≤ settings.maxDepth :=
    ⟨fun hw => hw.1, fun hle => ⟨hle, render_eq_ok_of_depth_le hle, toJson_eq_ok_iff.mpr hle⟩⟩
  have hwithin := operatorDepth_le_of_accepted h
  rw [hwritable, depth_readPayload (ofJson_eq_ok.mp h)]
  cases payload.isOperation with
  | true => simpa using hwithin
  | false => simp only [Bool.false_eq_true, if_false, false_or, Nat.lt_iff_add_one_le]

/-- A negation under a field at the root, two operators within a limit of two. -/
theorem accepted_writable_iff_field_over_not :
    ∃ f, (ofJson { maxDepth := 2, fallback := .permissive }
          (.single "a" (.single "!" (.bool true)))).outcome = .ok f ∧
      f.expression.depth ≤ 2 ∧
      (∃ text, f.render { maxDepth := 2, fallback := .permissive } = .ok text) ∧
      ∃ j, f.toJson { maxDepth := 2, fallback := .permissive } = .ok j := by
  have haccepted : (ofJson { maxDepth := 2, fallback := .permissive }
      (.single "a" (.single "!" (.bool true)))).outcome =
        .ok ⟨.eq (.field "a") (.nested (.not (.value (.bool true))))⟩ := by rfl
  exact ⟨_, haccepted, (accepted_writable_iff haccepted).2.mpr (.inr (by decide))⟩

/-- **The equality at the root is not counted**: within a limit of one, a negation under a field is
accepted, has depth two, and can be neither rendered nor exported. -/
theorem accepted_beyond_limit :
    ∃ f, (ofJson { maxDepth := 1, fallback := .permissive }
          (.single "a" (.single "!" (.bool true)))).outcome = .ok f ∧
      f.expression.depth = 2 ∧
      f.render { maxDepth := 1, fallback := .permissive } = .error (.depthExceeded 1) ∧
      f.toJson { maxDepth := 1, fallback := .permissive } = .error (.depthExceeded 1) := by
  exact ⟨⟨.eq (.field "a") (.nested (.not (.value (.bool true))))⟩, by rfl, by rfl, by rfl, by rfl⟩

end MailFilter.Filter
