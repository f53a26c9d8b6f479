import MailFilter.Filter

/-!
# The limit on depth is a threshold

Export and both renderers walk down an expression and check the level of every operator they
meet. What they write does not depend on the limit, so it is given here as plain recursions
without one: `payload`, the `text` of the expression, and `searchText`. **Each writer answers with
that or, if the expression is too deep, with the refusal that names the limit**, and nothing else
can come out.

Export and Polish notation look at every operand, so too deep means deeper than the limit. The
search dialect passes over operands that its shorthands leave out; `searchDepth` counts what it
looks at, which is never more than the depth.
-/

namespace MailFilter

/-! ## Checks one after the other are one check of the greatest level -/

theorem withinDepth_of_le {α : Type} {limit level : Nat} {r : Except RenderError α}
    (h : level ≤ limit) : withinDepth limit level r = r := by
  rw [withinDepth, if_neg (Nat.not_lt.mpr h)]

theorem withinDepth_of_lt {α : Type} {limit level : Nat} {r : Except RenderError α}
    (h : limit < level) : withinDepth limit level r = .error (.depthExceeded limit) := by
  rw [withinDepth, if_pos h]

theorem withinDepth_congr {α : Type} {limit level : Nat} {r r' : Except RenderError α}
    (h : level ≤ limit → r = r') : withinDepth limit level r = withinDepth limit level r' := by
  rcases Nat.lt_or_ge limit level with hlt | hle
  · rw [withinDepth_of_lt hlt, withinDepth_of_lt hlt]
  · rw [h hle]

theorem withinDepth_eq_ok_iff {α : Type} {limit level : Nat} {a b : α} :
    withinDepth limit level (.ok a) = .ok b ↔ level ≤ limit ∧ b = a := by
  rcases Nat.lt_or_ge limit level with hlt | hle
  · rw [withinDepth_of_lt hlt]
    exact iff_of_false (fun h => nomatch h) fun h => Nat.not_le.mpr hlt h.1
  · rw [withinDepth_of_le hle, Except.ok.injEq, eq_comm]
    exact (and_iff_right hle).symm

theorem withinDepth_ok_iff {α : Type} {limit level : Nat} {a : α} :
    (∃ b, withinDepth limit level (.ok a) = .ok b) ↔ level ≤ limit := by
  simp only [withinDepth_eq_ok_iff, exists_and_left, exists_eq, and_true]

theorem withinDepth_ok_eq_ite {α : Type} (limit level : Nat) (a : α) :
    withinDepth limit level (.ok a) =
      if level ≤ limit then .ok a else .error (.depthExceeded limit) := by
  rcases Nat.lt_or_ge limit level with hlt | hle
  · rw [withinDepth_of_lt hlt, if_neg (Nat.not_le.mpr hlt)]
  · rw [withinDepth_of_le hle, if_pos hle]

theorem withinDepth_map {α β : Type} {limit level : Nat} {a : α} (g : α → β) :
    (do let x ← withinDepth limit level (.ok a); pure (g x)) =
      withinDepth limit level (.ok (g a)) := by
  rcases Nat.lt_or_ge limit level with hlt | hle
  · rw [withinDepth_of_lt hlt, withinDepth_of_lt hlt]; rfl
  · rw [withinDepth_of_le hle, withinDepth_of_le hle]; rfl

theorem withinDepth_seq {α β γ : Type} {limit level m n : Nat} {a : α} {b : β} (g : α → β → γ) :
    (do let x ← withinDepth limit (level + m) (.ok a)
        let y ← withinDepth limit (level + n) (.ok b)
        pure (g x y)) =
      withinDepth limit (level + max m n) (.ok (g a b)) := by
  rcases Nat.lt_or_ge limit (level + m) with hlt | hle
  · have hmax : limit < level + max m n := by omega
    rw [withinDepth_of_lt hlt, withinDepth_of_lt hmax]
    rfl
  · rw [withinDepth_of_le hle]
    show (do let y ← withinDepth limit (level + n) (.ok b); pure (g a y)) = _
    rw [withinDepth_map]
    rcases Nat.lt_or_ge limit (level + n) with hlt | hle'
    · have hmax : limit < level + max m n := by omega
      rw [withinDepth_of_lt hlt, withinDepth_of_lt hmax]
    · have hmax : level + max m n ≤ limit := by omega
      rw [withinDepth_of_le hle', withinDepth_of_le hmax]

theorem withinDepth_below {α : Type} {limit level n : Nat} {a : α} :
    withinDepth limit (level + 1) (withinDepth limit (level + 1 + n) (.ok a)) =
      withinDepth limit (level + (1 + n)) (.ok a) := by
  rw [Nat.add_assoc level 1 n]
  rcases Nat.lt_or_ge limit (level + 1) with hlt | hle
  · rw [withinDepth_of_lt hlt, withinDepth_of_lt (by omega)]
  · rw [withinDepth_of_le hle]

/-! ## Polish notation is the text of the expression -/

mutual

theorem Expression.polishAt_succ {limit level : Nat} : ∀ e : Expression,
    e.polishAt limit (level + 1) = withinDepth limit (level + e.depth) (.ok e.text)
  | .node op first rest => by
    -- the operands are looked at only where the operator itself is within the limit
    have hoperands (hle : level + 1 ≤ limit) :
        (do let head ← first.polishAt limit (level + 1)
            let tail ← Operand.polishListAt limit (level + 1) rest
            pure (op.symbol ++ " " ++ head ++ tail)) =
          withinDepth limit (level + 1 + max first.depth (Operand.depthOfList rest))
            (.ok (op.symbol ++ " " ++ first.text ++ Operand.textOfList rest)) := by
      rw [Operand.polishAt_of_le hle first, Operand.polishListAt_of_le hle rest]
      exact withinDepth_seq fun head tail => op.symbol ++ " " ++ head ++ tail
    rw [Expression.polishAt, withinDepth_congr hoperands, withinDepth_below, Expression.depth,
      Expression.text]

theorem Operand.polishAt_of_le {limit level : Nat} (hle : level ≤ limit) : ∀ o : Operand,
    o.polishAt limit level = withinDepth limit (level + o.depth) (.ok o.text)
  | .value _ => (withinDepth_of_le hle).symm
  | .field _ => (withinDepth_of_le hle).symm
  | .identifier _ => (withinDepth_of_le hle).symm
  | .nested e => by
    rw [Operand.polishAt, e.polishAt_succ, Operand.depth, Operand.text]

theorem Operand.polishListAt_of_le {limit level : Nat} (hle : level ≤ limit) :
    ∀ os : List Operand, Operand.polishListAt limit level os =
      withinDepth limit (level + Operand.depthOfList os) (.ok (Operand.textOfList os))
  | [] => (withinDepth_of_le hle).symm
  | o :: os => by
    rw [Operand.polishListAt, Operand.polishAt_of_le hle o, Operand.polishListAt_of_le hle os,
      Operand.depthOfList, Operand.textOfList]
    exact withinDepth_seq fun head tail => " " ++ head ++ tail

end

/-- **Polish notation answers with the text of the expression, up to the limit.** -/
theorem Expression.polish_eq (limit : Nat) (e : Expression) :
    e.polish limit = withinDepth limit e.depth (.ok e.text) := by
  rw [Expression.polish, e.polishAt_succ, Nat.zero_add]

theorem Expression.polish_eq_ok_iff {limit : Nat} {e : Expression} {text : String} :
    e.polish limit = .ok text ↔ e.depth ≤ limit ∧ text = e.text := by
  rw [e.polish_eq]
  exact withinDepth_eq_ok_iff

/-! ## Export -/

mutual

/-- What an expression is exported as, if nothing limits its depth. -/
def Expression.payload : Expression → Json
  | .node op first rest =>
    match fieldKey? first rest with
    | some name => .single op.symbol (.single name (fieldBody (Operand.payloads rest)))
    | none => .single op.symbol (.array (first.payload :: Operand.payloads rest))

/-- What an operand is exported as. -/
def Operand.payload : Operand → Json
  | .value scalar => scalar.toJson
  | .field name => .string name
  | .identifier name => .string name
  | .nested e => e.payload

/-- What operands are exported as. -/
def Operand.payloads : List Operand → List Json
  | [] => []
  | o :: os => o.payload :: Operand.payloads os

end

mutual

theorem Expression.exportAt_succ {limit level : Nat} : ∀ e : Expression,
    e.exportAt limit (level + 1) = withinDepth limit (level + e.depth) (.ok e.payload)
  | .node op first rest => by
    rw [Expression.exportAt, Expression.depth, Expression.payload]
    cases hkey : fieldKey? first rest with
    | some name =>
      dsimp only
      have hoperands (hle : level + 1 ≤ limit) :
          (do let values ← Operand.exportListAt limit (level + 1) rest
              pure (Json.single op.symbol (.single name (fieldBody values)))) =
            withinDepth limit (level + 1 + Operand.depthOfList rest)
              (.ok (.single op.symbol (.single name (fieldBody (Operand.payloads rest))))) := by
        rw [Operand.exportListAt_of_le hle rest]
        exact withinDepth_map fun values => Json.single op.symbol (.single name (fieldBody values))
      rw [withinDepth_congr hoperands, withinDepth_below, depth_of_fieldKey? hkey, Nat.zero_max]
    | none =>
      dsimp only
      have hoperands (hle : level + 1 ≤ limit) :
          (do let value ← first.exportAt limit (level + 1)
              let values ← Operand.exportListAt limit (level + 1) rest
              pure (Json.single op.symbol (.array (value :: values)))) =
            withinDepth limit (level + 1 + max first.depth (Operand.depthOfList rest))
              (.ok (.single op.symbol (.array (first.payload :: Operand.payloads rest)))) := by
        rw [Operand.exportAt_of_le hle first, Operand.exportListAt_of_le hle rest]
        exact withinDepth_seq fun value values => Json.single op.symbol (.array (value :: values))
      rw [withinDepth_congr hoperands, withinDepth_below]

theorem Operand.exportAt_of_le {limit level : Nat} (hle : level ≤ limit) : ∀ o : Operand,
    o.exportAt limit level = withinDepth limit (level + o.depth) (.ok o.payload)
  | .value _ => (withinDepth_of_le hle).symm
  | .field _ => (withinDepth_of_le hle).symm
  | .identifier _ => (withinDepth_of_le hle).symm
  | .nested e => by
    rw [Operand.exportAt, e.exportAt_succ, Operand.depth, Operand.payload]

theorem Operand.exportListAt_of_le {limit level : Nat} (hle : level ≤ limit) :
    ∀ os : List Operand, Operand.exportListAt limit level os =
      withinDepth limit (level + Operand.depthOfList os) (.ok (Operand.payloads os))
  | [] => (withinDepth_of_le hle).symm
  | o :: os => by
    rw [Operand.exportListAt, Operand.exportAt_of_le hle o, Operand.exportListAt_of_le hle os,
      Operand.depthOfList, Operand.payloads]
    exact withinDepth_seq fun value values => value :: values

end

/-- **Export answers with the payload of the expression, up to the limit.** -/
theorem Expression.toPayload_eq (limit : Nat) (e : Expression) :
    e.toPayload limit = withinDepth limit e.depth (.ok e.payload) := by
  rw [Expression.toPayload, e.exportAt_succ, Nat.zero_add]

/-! ## The search dialect -/

mutual

/-- The number of operators on the longest branch that the search dialect looks at. -/
def Expression.searchDepth : Expression → Nat
  | .node op first rest =>
    1 + match shorthand? op first rest with
      | some .openRange => Operand.searchDepthOfList rest
      | some .range => Operand.searchDepthOfList rest
      | some .flag => first.searchDepth
      | none => max first.searchDepth (Operand.searchDepthOfList rest)

/-- The same for an operand. -/
def Operand.searchDepth : Operand → Nat
  | .value _ => 0
  | .field _ => 0
  | .identifier _ => 0
  | .nested e => e.searchDepth

/-- The greatest such number in a list of operands. -/
def Operand.searchDepthOfList : List Operand → Nat
  | [] => 0
  | o :: os => max o.searchDepth (Operand.searchDepthOfList os)

end

mutual

/-- The text of an expression in the search dialect, if nothing limits its depth. -/
def Expression.searchText : Expression → String
  | .node op first rest =>
    match shorthand? op first rest with
    | some .openRange =>
      "(" ++ uidField ++ " " ++ ":".intercalate (Operand.searchTexts rest) ++ ":*)"
    | some .range => "(" ++ uidField ++ " " ++ ":".intercalate (Operand.searchTexts rest) ++ ")"
    | some .flag => "(" ++ first.searchText ++ ")"
    | none => " ".intercalate (op.word :: first.searchText :: Operand.searchTexts rest)

/-- The text of an operand in the search dialect. -/
def Operand.searchText : Operand → String
  | .value scalar => scalar.text
  | .field name => name
  | .identifier name => name
  | .nested e => e.searchText

/-- The texts of operands in the search dialect. -/
def Operand.searchTexts : List Operand → List String
  | [] => []
  | o :: os => o.searchText :: Operand.searchTexts os

end

mutual

theorem Expression.searchAt_succ {limit level : Nat} : ∀ e : Expression,
    e.searchAt limit (level + 1) = withinDepth limit (level + e.searchDepth) (.ok e.searchText)
  | .node op first rest => by
    rw [Expression.searchAt, Expression.searchDepth, Expression.searchText, ← withinDepth_below]
    refine withinDepth_congr fun hle => ?_
    rw [Operand.searchAt_of_le hle first, Operand.searchListAt_of_le hle rest]
    -- each shorthand reads its own choice of the operands
    match shorthand? op first rest with
    | some .openRange => exact withinDepth_map _
    | some .range => exact withinDepth_map _
    | some .flag => exact withinDepth_map _
    | none => exact withinDepth_seq fun head tail => " ".intercalate (op.word :: head :: tail)

theorem Operand.searchAt_of_le {limit level : Nat} (hle : level ≤ limit) : ∀ o : Operand,
    o.searchAt limit level = withinDepth limit (level + o.searchDepth) (.ok o.searchText)
  | .value _ => (withinDepth_of_le hle).symm
  | .field _ => (withinDepth_of_le hle).symm
  | .identifier _ => (withinDepth_of_le hle).symm
  | .nested e => by
    rw [Operand.searchAt, e.searchAt_succ, Operand.searchDepth, Operand.searchText]

theorem Operand.searchListAt_of_le {limit level : Nat} (hle : level ≤ limit) :
    ∀ os : List Operand, Operand.searchListAt limit level os =
      withinDepth limit (level + Operand.searchDepthOfList os) (.ok (Operand.searchTexts os))
  | [] => (withinDepth_of_le hle).symm
  | o :: os => by
    rw [Operand.searchListAt, Operand.searchAt_of_le hle o, Operand.searchListAt_of_le hle os,
      Operand.searchDepthOfList, Operand.searchTexts]
    exact withinDepth_seq fun head tail => head :: tail

end

/-- **The search dialect answers with its text, up to the limit on what it looks at.** -/
theorem Expression.search_eq (limit : Nat) (e : Expression) :
    e.search limit = withinDepth limit e.searchDepth (.ok e.searchText) := by
  rw [Expression.search, e.searchAt_succ, Nat.zero_add]

theorem Expression.search_eq_ok_iff {limit : Nat} {e : Expression} {text : String} :
    e.search limit = .ok text ↔ e.searchDepth ≤ limit ∧ text = e.searchText := by
  rw [e.search_eq]
  exact withinDepth_eq_ok_iff

mutual

/-- The search dialect looks at no more than there is. -/
theorem Expression.searchDepth_le : ∀ e : Expression, e.searchDepth ≤ e.depth
  | .node op first rest => by
    have hfirst := Operand.searchDepth_le first
    have hrest := Operand.searchDepthOfList_le rest
    rw [Expression.searchDepth, Expression.depth]
    match shorthand? op first rest with
    | some .openRange => dsimp only; omega
    | some .range => dsimp only; omega
    | some .flag => dsimp only; omega
    | none =>
      show 1 + max first.searchDepth (Operand.searchDepthOfList rest) ≤ _
      omega

theorem Operand.searchDepth_le : ∀ o : Operand, o.searchDepth ≤ o.depth
  | .value _ => Nat.le_refl 0
  | .field _ => Nat.le_refl 0
  | .identifier _ => Nat.le_refl 0
  | .nested e => by
    rw [Operand.searchDepth, Operand.depth]
    exact e.searchDepth_le

theorem Operand.searchDepthOfList_le :
    ∀ os : List Operand, Operand.searchDepthOfList os ≤ Operand.depthOfList os
  | [] => Nat.le_refl 0
  | o :: os => by
    have ho := Operand.searchDepth_le o
    have hos := Operand.searchDepthOfList_le os
    rw [Operand.searchDepthOfList, Operand.depthOfList]
    omega

end

end MailFilter
