import MailFilter.Proofs.Limit
import MailFilter.Proofs.Nodes

/-!
# Under which limits an expression is written

A limit on depth should have one meaning for all writers: what is no deeper than the limit is
written, and what is deeper is refused. For **Polish notation and export** that is so. The depth of
the expression is the least limit under which they write it, and they share it.

The **search dialect** has the same rule for another expression. Of a flag test it writes the flag
alone, and it looks neither at the boolean nor at an operand behind it. So its threshold is the
depth of the `trimmed` expression, in which those operands are missing
(`Expression.depth_trimmed`). A flag test that was built as a comparison has no such operands; where
there are some and they are the deepest, an expression beyond the limit is written.
-/

namespace MailFilter

/-! ## Polish notation and export -/

/-- **Polish notation and export have the depth as their threshold**: up to it there is the text of
the expression and its payload, beyond it the refusal that names the limit. It makes no difference
to Polish notation whether the expression is given as such or as an operand. -/
theorem Expression.polish_and_export_up_to_depth (limit : Nat) (e : Expression) :
    e.polish limit =
        (if e.depth ≤ limit then .ok e.text else .error (.depthExceeded limit)) ∧
      e.toPayload limit =
        (if e.depth ≤ limit then .ok e.payload else .error (.depthExceeded limit)) ∧
      (Operand.nested e).polish limit = e.polish limit := by
  refine ⟨?_, ?_, ?_⟩
  · rw [e.polish_eq, withinDepth_ok_eq_ite]
  · rw [e.toPayload_eq, withinDepth_ok_eq_ite]
  · -- an operand stands at level zero, so what is nested in it stands where a root does
    rw [Operand.polish, Operand.polishAt, Expression.polish]

/-! ## What the search dialect looks at -/

/-- The operands behind the first, up to the boolean if they are those of a flag test. -/
def upToFlag : Operator → List Operand → List Operand
  | .eq, .value (.bool b) :: _ => [.value (.bool b)]
  | _, rest => rest

mutual

/-- An expression without the operands that stand behind the boolean of a flag test. -/
def Expression.trimmed : Expression → Expression
  | .node op first rest => .node op first.trimmed (upToFlag op (Operand.trimmedList rest))

/-- An operand without such operands. -/
def Operand.trimmed : Operand → Operand
  | .value scalar => .value scalar
  | .field name => .field name
  | .identifier name => .identifier name
  | .nested e => .nested e.trimmed

/-- Operands without such operands in them. -/
def Operand.trimmedList : List Operand → List Operand
  | [] => []
  | o :: os => o.trimmed :: Operand.trimmedList os

end

/-- Nothing stands behind the boolean, if the node is a flag test. -/
def Expression.EndsWithFlag (node : Expression) : Prop :=
  ∀ first b others, node = .node .eq first (.value (.bool b) :: others) → others = []

/-- Where there is no flag test, all operands are kept. -/
theorem upToFlag_trimmedList {op : Operator} {rest : List Operand}
    (h : ∀ b others, op = .eq → rest ≠ .value (.bool b) :: others) :
    upToFlag op (Operand.trimmedList rest) = Operand.trimmedList rest := by
  by_cases hop : op = .eq
  · subst hop
    cases rest with
    | nil => rfl
    | cons o os =>
      cases o with
      | value scalar =>
        cases scalar with
        | bool b => exact absurd rfl (h b os rfl)
        | _ => rfl
      | _ => rfl
  · cases op with
    | eq => exact absurd rfl hop
    | _ => rfl

theorem upToFlag_of_shorthand? {op : Operator} {first : Operand} {rest : List Operand}
    {form : Option Shorthand} (h : shorthand? op first rest = form) (hform : form ≠ some .flag) :
    upToFlag op (Operand.trimmedList rest) = Operand.trimmedList rest := by
  refine upToFlag_trimmedList fun b others hop hrest => hform ?_
  rw [← h]
  exact shorthand?_eq_flag_iff.mpr ⟨hop, b, others, hrest⟩

mutual

/-- **The search dialect looks at the trimmed expression**, and at all of it. -/
theorem Expression.depth_trimmed : ∀ e : Expression, e.trimmed.depth = e.searchDepth
  | .node op first rest => by
    have hfirst := Operand.depth_trimmed first
    have hrest := Operand.depthOfList_trimmedList rest
    rw [Expression.trimmed, Expression.depth, Expression.searchDepth, hfirst]
    cases hshort : shorthand? op first rest with
    | none => rw [upToFlag_of_shorthand? hshort (by decide), hrest]
    | some form =>
      cases form with
      | openRange =>
        -- the field that is not looked at has no depth
        obtain ⟨-, rfl⟩ := shorthand?_eq_openRange_iff.mp hshort
        rw [upToFlag_of_shorthand? hshort (by decide), hrest, Operand.searchDepth, Nat.zero_max]
      | range =>
        obtain ⟨-, rfl⟩ := shorthand?_eq_range_iff.mp hshort
        rw [upToFlag_of_shorthand? hshort (by decide), hrest, Operand.searchDepth, Nat.zero_max]
      | flag =>
        obtain ⟨rfl, b, others, rfl⟩ := shorthand?_eq_flag_iff.mp hshort
        rw [Operand.trimmedList, Operand.trimmed, upToFlag, Operand.depthOfList, Operand.depth,
          Operand.depthOfList, Nat.max_self, Nat.max_zero]

theorem Operand.depth_trimmed : ∀ o : Operand, o.trimmed.depth = o.searchDepth
  | .value _ => rfl
  | .field _ => rfl
  | .identifier _ => rfl
  | .nested e => by
    rw [Operand.trimmed, Operand.depth, Operand.searchDepth, e.depth_trimmed]

theorem Operand.depthOfList_trimmedList : ∀ os : List Operand,
    Operand.depthOfList (Operand.trimmedList os) = Operand.searchDepthOfList os
  | [] => rfl
  | o :: os => by
    rw [Operand.trimmedList, Operand.depthOfList, Operand.searchDepthOfList,
      Operand.depth_trimmed o, Operand.depthOfList_trimmedList os]

end

/-! ## What has nothing to trim -/

theorem upToFlag_trimmedList_eq_iff {op : Operator} {first : Operand} {rest : List Operand} :
    upToFlag op (Operand.trimmedList rest) = rest ↔
      (Expression.node op first rest).EndsWithFlag ∧ Operand.trimmedList rest = rest := by
  by_cases hflag : ∃ b others, op = .eq ∧ rest = .value (.bool b) :: others
  · obtain ⟨b, others, rfl, rfl⟩ := hflag
    rw [Operand.trimmedList, Operand.trimmed, upToFlag, List.cons.injEq, List.cons.injEq]
    refine ⟨?_, ?_⟩
    · rintro ⟨-, rfl⟩
      refine ⟨?_, rfl, rfl⟩
      rintro _ _ others ⟨⟩
      rfl
    · rintro ⟨hends, -⟩
      exact ⟨rfl, (hends first b others rfl).symm⟩
  · have hnot : ∀ b others, op = .eq → rest ≠ .value (.bool b) :: others :=
      fun b others hop hrest => hflag ⟨b, others, hop, hrest⟩
    rw [upToFlag_trimmedList hnot]
    refine (and_iff_right ?_).symm
    rintro _ b others ⟨⟩
    exact absurd rfl (hnot b others rfl)

mutual

/-- **An expression is trimmed already exactly if its flag tests end with the boolean.** -/
theorem Expression.trimmed_eq_iff : ∀ e : Expression,
    e.trimmed = e ↔ ∀ node ∈ e.nodes, node.EndsWithFlag
  | .node op first rest => by
    rw [Expression.trimmed, Expression.node.injEq, Operand.trimmed_eq_iff first,
      upToFlag_trimmedList_eq_iff, Operand.trimmedList_eq_iff rest, Expression.forall_nodes_iff,
      eq_self, true_and, and_left_comm]

theorem Operand.trimmed_eq_iff : ∀ o : Operand,
    o.trimmed = o ↔ ∀ node ∈ o.nodes, node.EndsWithFlag
  | .value _ => iff_of_true rfl fun _ h => nomatch h
  | .field _ => iff_of_true rfl fun _ h => nomatch h
  | .identifier _ => iff_of_true rfl fun _ h => nomatch h
  | .nested e => by
    rw [Operand.trimmed, Operand.nested.injEq, e.trimmed_eq_iff, Operand.nodes]

theorem Operand.trimmedList_eq_iff : ∀ os : List Operand,
    Operand.trimmedList os = os ↔ ∀ node ∈ Operand.nodesOfList os, node.EndsWithFlag
  | [] => iff_of_true rfl fun _ h => nomatch h
  | o :: os => by
    rw [Operand.trimmedList, List.cons.injEq, Operand.trimmed_eq_iff o,
      Operand.trimmedList_eq_iff os, Operand.forall_nodesOfList_iff]

end

/-! ## The threshold of the search dialect -/

/-- **The search dialect has the depth of the trimmed expression as its threshold.** It goes by the
depth of the expression itself, as Polish notation and export do, under every limit that does not
lie between the two depths; and they are one depth if every flag test ends with its boolean. -/
theorem Expression.search_up_to_trimmed_depth (limit : Nat) (e : Expression) :
    e.search limit =
        (if e.trimmed.depth ≤ limit then .ok e.searchText else .error (.depthExceeded limit)) ∧
      ((e.depth ≤ limit → ∃ text, e.search limit = .ok text) ∧
          (limit < e.depth → e.search limit = .error (.depthExceeded limit)) ↔
        ¬ (e.trimmed.depth ≤ limit ∧ limit < e.depth)) ∧
      (e.trimmed = e ↔ ∀ node ∈ e.nodes, node.EndsWithFlag) := by
  have hsearch : e.search limit =
      if e.trimmed.depth ≤ limit then .ok e.searchText else .error (.depthExceeded limit) := by
    rw [e.search_eq, withinDepth_ok_eq_ite, e.depth_trimmed]
  have htrimmed : e.trimmed.depth ≤ e.depth := by
    rw [e.depth_trimmed]
    exact e.searchDepth_le
  refine ⟨hsearch, ?_, e.trimmed_eq_iff⟩
  rw [hsearch]
  by_cases hle : e.trimmed.depth ≤ limit
  · rw [if_pos hle]
    refine ⟨?_, ?_⟩
    · rintro ⟨-, hrefused⟩ ⟨-, hlt⟩
      cases hrefused hlt
    · intro hbetween
      exact ⟨fun _ => ⟨_, rfl⟩, fun hlt => absurd ⟨hle, hlt⟩ hbetween⟩
  · rw [if_neg hle]
    refine iff_of_true ⟨fun h => ?_, fun _ => rfl⟩ fun h => hle h.1
    exact absurd (Nat.le_trans htrimmed h) hle

/-- **A search command is written beyond the limit**: the negation behind the boolean of a flag
test takes the expression to a depth of two, and under a limit of one only the search dialect
writes it. -/
theorem search_beyond_limit :
    ∃ e : Expression, 1 < e.depth ∧ e.polish 1 = .error (.depthExceeded 1) ∧
      e.toPayload 1 = .error (.depthExceeded 1) ∧ e.search 1 = .ok "(x)" ∧
      e.search 1 ≠ .error (.depthExceeded 1) := by
  refine ⟨.node .eq (.field "x") [.value (.bool true), .nested (.not (.value (.bool true)))],
    by decide, by rfl, by rfl, by rfl, ?_⟩
  intro h
  cases h

end MailFilter
