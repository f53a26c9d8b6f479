import MailFilter.Proofs.Canonical
import MailFilter.Proofs.Json.Compact

/-!
# The printed export is read again

An export has no more than three brackets for each operator on its longest branch: the object of
the operator, that of the field, and the list under the field. The reader of JSON texts allows 127
at once, so **up to a limit of 42 operators every text that is printed is read again**, and what is
read is printed as the same text. Floats are left out; their decimals are another matter.

The bound is sharp. A `ladder` has all three brackets on each of its levels, and with 43 of them
its text is no longer read, although it is exported under that limit.
-/

namespace MailFilter

/-! ## An export without floats is plain -/

/-- Among the operands of an expression there is no float. -/
def Expression.FloatFree (node : Expression) : Prop :=
  ∀ x, .value (.float x) ∉ node.operands

theorem plain_single (key : String) {j : Json} (hj : j.Plain) : (Json.single key j).Plain := by
  refine .object (List.pairwise_singleton _ _) fun m hm => ?_
  rw [List.mem_singleton.mp hm]
  exact hj

theorem plain_fieldBody {values : List Json} (h : ∀ v ∈ values, v.Plain) :
    (fieldBody values).Plain := by
  match values with
  | [] => exact .array h
  | [v] => exact h v List.mem_cons_self
  | _ :: _ :: _ => exact .array h

theorem Scalar.plain_toJson {s : Scalar} (hs : ∀ x, s ≠ .float x) : s.toJson.Plain := by
  cases s with
  | null => exact .null
  | bool b => exact .bool b
  | integer i => exact .number fun x finite => by simp
  | unsigned u =>
    refine .number fun x finite => ?_
    unfold Json.Number.ofUInt64
    split <;> simp
  | float x => exact absurd rfl (hs x)
  | string s => exact .string s

mutual

theorem Expression.plain_payload :
    ∀ e : Expression, (∀ node ∈ e.nodes, node.FloatFree) → e.payload.Plain
  | .node op first rest, h => by
    obtain ⟨hnode, hfirst, hrest⟩ := Expression.forall_nodes_iff.mp h
    have hvalue : ∀ x, first ≠ .value (.float x) := fun x hx =>
      hnode x (hx ▸ List.mem_cons_self)
    have hvalues : ∀ x, .value (.float x) ∉ rest := fun x hx =>
      hnode x (List.mem_cons_of_mem _ hx)
    have hpayloads := Operand.plain_payloads rest hvalues hrest
    rw [Expression.payload]
    split
    · exact plain_single _ (plain_single _ (plain_fieldBody hpayloads))
    · have hpayload := Operand.plain_payload first hvalue hfirst
      exact plain_single _ (.array (List.forall_mem_cons.mpr ⟨hpayload, hpayloads⟩))

theorem Operand.plain_payload : ∀ o : Operand, (∀ x, o ≠ .value (.float x)) →
    (∀ node ∈ o.nodes, node.FloatFree) → o.payload.Plain
  | .value _, hvalue, _ => Scalar.plain_toJson fun x hx => hvalue x (hx ▸ rfl)
  | .field name, _, _ => .string name
  | .identifier name, _, _ => .string name
  | .nested e, _, h => e.plain_payload h

theorem Operand.plain_payloads : ∀ os : List Operand, (∀ x, .value (.float x) ∉ os) →
    (∀ node ∈ Operand.nodesOfList os, node.FloatFree) → ∀ j ∈ Operand.payloads os, j.Plain
  | [], _, _ => fun _ hj => nomatch hj
  | o :: os, hvalues, h => by
    obtain ⟨ho, hos⟩ := Operand.forall_nodesOfList_iff.mp h
    have hpayload := Operand.plain_payload o
      (fun x hx => hvalues x (hx ▸ List.mem_cons_self)) ho
    have hpayloads := Operand.plain_payloads os
      (fun x hx => hvalues x (List.mem_cons_of_mem _ hx)) hos
    exact List.forall_mem_cons.mpr ⟨hpayload, hpayloads⟩

end

/-! ## Three brackets for an operator -/

theorem brackets_single (key : String) (j : Json) :
    (Json.single key j).brackets = 1 + j.brackets := by
  rw [Json.single, Json.brackets, Json.bracketsOfMembers, Json.bracketsOfMembers, Nat.max_zero]

theorem brackets_fieldBody_le (values : List Json) :
    (fieldBody values).brackets ≤ 1 + Json.bracketsOfItems values := by
  match values with
  | [] => exact Nat.le_refl _
  | [v] =>
    show v.brackets ≤ _
    rw [Json.bracketsOfItems]
    omega
  | _ :: _ :: _ => exact Nat.le_refl _

theorem Scalar.brackets_toJson (s : Scalar) : s.toJson.brackets = 0 := by
  cases s with
  | float x =>
    show ((Json.Number.ofFloat? x).elim Json.null .number).brackets = 0
    cases Json.Number.ofFloat? x <;> rfl
  | _ => rfl

mutual

/-- **An export opens at most three brackets for each operator on a branch.** -/
theorem Expression.brackets_payload_le : ∀ e : Expression, e.payload.brackets ≤ 3 * e.depth
  | .node op first rest => by
    have hrest := Operand.brackets_payloads_le rest
    rw [Expression.depth, Expression.payload]
    split
    · have hbody := brackets_fieldBody_le (Operand.payloads rest)
      rw [brackets_single, brackets_single]
      omega
    · have hfirst := Operand.brackets_payload_le first
      rw [brackets_single, Json.brackets, Json.bracketsOfItems]
      omega

theorem Operand.brackets_payload_le : ∀ o : Operand, o.payload.brackets ≤ 3 * o.depth
  | .value s => Nat.le_of_eq s.brackets_toJson
  | .field _ => Nat.le_refl _
  | .identifier _ => Nat.le_refl _
  | .nested e => e.brackets_payload_le

theorem Operand.brackets_payloads_le : ∀ os : List Operand,
    Json.bracketsOfItems (Operand.payloads os) ≤ 3 * Operand.depthOfList os
  | [] => Nat.le_refl _
  | o :: os => by
    have ho := Operand.brackets_payload_le o
    have hos := Operand.brackets_payloads_le os
    rw [Operand.payloads, Json.bracketsOfItems, Operand.depthOfList]
    omega

end

/-- A field that is compared with two values, the second of which is the operand. -/
def Expression.rung (o : Operand) : Expression :=
  isIn (.field "a") [.value .null, o]

/-- Expressions nested in each other as operands of a field, none of them alone under it. -/
def Expression.ladder : Nat → Expression
  | 0 => rung (.value .null)
  | n + 1 => rung (.nested (ladder n))

theorem Expression.depth_rung (o : Operand) : (rung o).depth = 1 + o.depth := by
  have hrest : Operand.depthOfList [.value .null, o] = o.depth := by
    rw [Operand.depthOfList, Operand.depthOfList, Operand.depthOfList, Operand.depth]
    omega
  rw [rung, isIn, Expression.depth, hrest, Operand.depth, Nat.zero_max]

theorem Expression.brackets_payload_rung (o : Operand) :
    (rung o).payload.brackets = 3 + o.payload.brackets := by
  have hpayload : (rung o).payload =
      .single "IN" (.single "a" (.array [.null, o.payload])) := rfl
  rw [hpayload, brackets_single, brackets_single]
  simp only [Json.brackets, Json.bracketsOfItems]
  omega

theorem Expression.depth_ladder (n : Nat) : (ladder n).depth = n + 1 := by
  induction n with
  | zero => rfl
  | succ n ih =>
    rw [ladder, depth_rung, Operand.depth, ih]
    omega

/-- A ladder opens as many brackets as its depth allows. -/
theorem Expression.brackets_payload_ladder (n : Nat) :
    (ladder n).payload.brackets = 3 * (ladder n).depth := by
  induction n with
  | zero => rfl
  | succ n ih =>
    rw [ladder, brackets_payload_rung, depth_rung, Operand.payload, Operand.depth, ih]
    omega

theorem Expression.floatFree_rung {o : Operand} (hvalue : ∀ x, o ≠ .value (.float x))
    (ho : ∀ node ∈ o.nodes, node.FloatFree) : ∀ node ∈ (rung o).nodes, node.FloatFree := by
  have hnodes : (rung o).nodes = rung o :: (o.nodes ++ []) := rfl
  rw [hnodes, List.append_nil, List.forall_mem_cons]
  refine ⟨fun x hx => ?_, ho⟩
  -- the field and the null before the operand are no floats
  rcases hx with _ | ⟨_, _ | ⟨_, _ | ⟨_, hx⟩⟩⟩
  · exact hvalue x rfl
  · cases hx

theorem Expression.floatFree_ladder (n : Nat) : ∀ node ∈ (ladder n).nodes, node.FloatFree := by
  induction n with
  | zero => exact floatFree_rung (fun _ h => nomatch h) fun _ h => nomatch h
  | succ n ih => exact floatFree_rung (fun _ h => nomatch h) ih

/-! ## Printing and reading -/

namespace Filter

variable {settings : FilterSettings}

theorem ofText_of_read_ok {text : String} {j : Json} {e : Expression}
    (hread : Json.read text = .ok j)
    (h : readPayload settings.maxDepth settings.fallback j = .ok e) :
    ofText settings text = ([], .ok ⟨e⟩) := by
  rw [ofText, hread]
  dsimp only
  rw [ofJson, h]
  rfl

theorem ofText_of_read_error {text : String} {fault : Json.Fault}
    (hread : Json.read text = .error fault) :
    ofText settings text = ([], .error (.ofFault text fault)) := by
  rw [ofText, hread]

/-- **Up to a limit of 42, whatever is exported without a float is printed as a text that is read
again, and what is read is printed as that text. At 43 a text can have too many brackets.** -/
theorem printed_reads_back :
    (∀ (settings : FilterSettings) (f : Filter) (j : Json), settings.maxDepth ≤ 42 →
      (∀ node ∈ f.expression.nodes, node.FloatFree) → f.toJson settings = .ok j →
      ∃ f', ofText settings j.compact = ([], .ok f') ∧
        (f'.toJson settings).map Json.compact = .ok j.compact) ∧
    ∃ f : Filter, (∀ node ∈ f.expression.nodes, node.FloatFree) ∧ f.expression.depth = 43 ∧
      ∀ settings : FilterSettings, settings.maxDepth = 43 →
        ∃ j left error, f.toJson settings = .ok j ∧
          Json.read j.compact = .error ⟨.tooDeep, left⟩ ∧
          ofText settings j.compact = ([], .error error) ∧
          error.kind.code = "VALIDATION_ERROR" := by
  refine ⟨?_, ?_⟩
  · intro settings f j hlimit hfloat hexport
    obtain ⟨hdepth, rfl⟩ := Expression.toPayload_eq_ok_iff.mp hexport
    -- three brackets for each of 42 operators are 126, and 127 are allowed
    have hbrackets : f.expression.payload.brackets ≤ Json.maxOpen := by
      have hle := f.expression.brackets_payload_le
      have hmax : Json.maxOpen = 127 := rfl
      omega
    have hread := (Json.read_compact (f.expression.plain_payload hfloat)).1 hbrackets
    refine ⟨⟨f.expression.reread⟩,
      ofText_of_read_ok hread (Expression.readPayload_payload _ hdepth), ?_⟩
    have hagain : (Filter.mk f.expression.reread).toJson settings = .ok f.expression.payload := by
      refine Expression.toPayload_eq_ok_iff.mpr ⟨?_, f.expression.payload_reread.symm⟩
      rw [f.expression.depth_reread]
      exact hdepth
    rw [hagain]
    rfl
  · refine ⟨⟨.ladder 42⟩, Expression.floatFree_ladder 42, Expression.depth_ladder 42, ?_⟩
    intro settings hlimit
    have hdepth := Expression.depth_ladder 42
    -- 43 operators of a ladder have 129
    have hbrackets : Json.maxOpen < (Expression.ladder 42).payload.brackets := by
      rw [Expression.brackets_payload_ladder, hdepth]
      decide
    have hplain := (Expression.ladder 42).plain_payload (Expression.floatFree_ladder 42)
    obtain ⟨left, hread⟩ := (Json.read_compact hplain).2 hbrackets
    refine ⟨_, left, _, Expression.toPayload_eq_ok_iff.mpr ⟨?_, rfl⟩, hread,
      ofText_of_read_error hread, rfl⟩
    rw [hlimit]
    exact Nat.le_of_eq hdepth

/-- A text with characters that are escaped and one that is not, the least signed and the greatest
unsigned integer, and a null, under the settings that are the default. -/
theorem printed_reads_back_escaped :
    ∃ j f', toJson {} ⟨.isIn (.field "subject") [.value (.string "\"é\n\x01"),
          .value (.integer Int64.minValue), .value (.unsigned 18446744073709551615),
          .nested (.not (.value .null))]⟩ = .ok j ∧
      j.compact = "\x7b\"IN\":\x7b\"subject\":[\"\\\"é\\n\\u0001\",-9223372036854775808," ++
        "18446744073709551615,\x7b\"!\":[null]\x7d]\x7d\x7d" ∧
      ofText {} j.compact = ([], .ok f') ∧ (f'.toJson {}).map Json.compact = .ok j.compact := by
  have hexport : toJson {} ⟨.isIn (.field "subject") [.value (.string "\"é\n\x01"),
      .value (.integer Int64.minValue), .value (.unsigned 18446744073709551615),
      .nested (.not (.value .null))]⟩ =
        .ok (.single "IN" (.single "subject" (.array [.string "\"é\n\x01",
          .number (.integer Int64.minValue),
          .number (.unsigned 18446744073709551615 (by decide)),
          .single "!" (.array [.null])]))) := by rfl
  obtain ⟨f', hread, hprint⟩ := printed_reads_back.1 {} _ _ (by decide) (by
    simp [Expression.isIn, Expression.not, Expression.nodes, Operand.nodes, Operand.nodesOfList,
      Expression.FloatFree, Expression.operands, Expression.first, Expression.rest]) hexport
  exact ⟨_, f', hexport, by rfl, hread, hprint⟩

end Filter

end MailFilter
