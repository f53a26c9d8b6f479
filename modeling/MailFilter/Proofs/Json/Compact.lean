import MailFilter.Json.Reader
import MailFilter.Proofs.Json.Lexeme

/-!
# A printed value is read back

Printing a value and reading the text gives the value again, if two things are seen to: there is no
float in the value, and the members of its objects are in the order of their keys, which is how the
reader puts them. Such a value is called **plain**.

The one thing that can go wrong then is that too many brackets are open at once. They are counted
by `brackets`, and the count decides: **the text of a plain value is read as the value if it has at
most 127 brackets open at once, and is refused as too deep if it has more** (`read_compact`).

The reader is a machine, so what is proved by induction is what the text of a value does to any
state that awaits a value: it is taken to the state in which the value has been supplied, whatever
text follows.
-/

namespace MailFilter.Json

/-- There is no float in a value, and the members of each object are in the order of their keys. -/
inductive Plain : Json → Prop
  | null : Plain .null
  | bool (b : Bool) : Plain (.bool b)
  | number {n : Number} : (∀ x finite, n ≠ .float x finite) → Plain (.number n)
  | string (s : String) : Plain (.string s)
  | array {items : List Json} : (∀ x ∈ items, Plain x) → Plain (.array items)
  | object {members : List (String × Json)} : Ascending members → (∀ m ∈ members, Plain m.2) →
      Plain (.object members)

mutual

/-- The greatest number of brackets that are open at once in the text of a value. -/
def brackets : Json → Nat
  | .array items => 1 + bracketsOfItems items
  | .object members => 1 + bracketsOfMembers members
  | _ => 0

/-- The greatest such number in a list. -/
def bracketsOfItems : List Json → Nat
  | [] => 0
  | x :: xs => max x.brackets (bracketsOfItems xs)

/-- The greatest such number among the values of members. -/
def bracketsOfMembers : List (String × Json) → Nat
  | [] => 0
  | (_, x) :: ms => max x.brackets (bracketsOfMembers ms)

end

/-! ## As expected, unless too many brackets are open -/

/-- With so many brackets open at once, a result is as expected if they are allowed, and a refusal
as too deep if they are not. -/
def WithinBrackets (n : Nat) (result expected : Except Fault State) : Prop :=
  (n ≤ maxOpen → result = expected) ∧
    (maxOpen < n → ∃ left, result = .error ⟨.tooDeep, left⟩)

theorem WithinBrackets.of_eq {n : Nat} {result expected : Except Fault State} (hn : n ≤ maxOpen)
    (h : result = expected) : WithinBrackets n result expected :=
  ⟨fun _ => h, fun hlt => absurd hn (Nat.not_le.mpr hlt)⟩

theorem WithinBrackets.trans {m n : Nat} {first second third : Except Fault State}
    (h : WithinBrackets m first second)
    (h' : m ≤ maxOpen → WithinBrackets n second third) :
    WithinBrackets (max m n) first third := by
  rcases Nat.lt_or_ge maxOpen m with hlt | hle
  · refine ⟨fun hmax => ?_, fun _ => h.2 hlt⟩
    omega
  · -- the first part is read, so it is the second that decides
    rw [h.1 hle]
    exact ⟨fun hmax => (h' hle).1 (by omega), fun hmax => (h' hle).2 (by omega)⟩

/-! ## States that await something -/

/-- The state takes the first lexeme of a value, unless it is the end of a list. -/
def State.Awaits (s : State) (outer : List Frame) : Prop :=
  ∀ l : Lexeme, l.kind ≠ .endList → s.take l = beginValue l outer

/-- The state takes a key. -/
def State.AwaitsKey (s : State) (members : List (String × Json)) (outer : List Frame) : Prop :=
  ∀ parts close source, s.take ⟨.string parts close, source⟩ =
    (stringOf parts close).map (.colon members · outer)

theorem awaits_value (outer : List Frame) : (State.value outer).Awaits outer :=
  fun _ _ => rfl

theorem awaits_firstItem (outer : List Frame) :
    (State.firstItem outer).Awaits (.item [] :: outer) := by
  intro l hl
  rw [State.take]
  split
  · rename_i hend
    exact absurd hend hl
  · rfl

theorem awaits_nextItem (items : List Json) (outer : List Frame) :
    (State.nextItem items outer).Awaits (.item items :: outer) := by
  intro l hl
  rw [State.take]
  split
  · rename_i hend
    exact absurd hend hl
  · rfl

theorem awaitsKey_firstKey (outer : List Frame) : (State.firstKey outer).AwaitsKey [] outer :=
  fun _ _ _ => rfl

theorem awaitsKey_nextKey (members : List (String × Json)) (outer : List Frame) :
    (State.nextKey members outer).AwaitsKey members outer :=
  fun _ _ _ => rfl

section

variable {s s' : State} {outer : List Frame} {rest : List Char}

theorem takeAll_cons {l : Lexeme} (ls : List Lexeme) (h : s.take l = .ok s') :
    State.takeAll (l :: ls) s = State.takeAll ls s' := by
  rw [State.takeAll, h]

/-- Opening a bracket is where the number of brackets is looked at. -/
theorem takeAll_open {c : Char} {kind : Lexeme.Kind} {inside : State} (hs : s.Awaits outer)
    (hc : punctuation? c = some kind) (hkind : kind ≠ .endList)
    (hopen : ∀ source, beginValue ⟨kind, source⟩ outer = openInside ⟨kind, source⟩ outer inside) :
    WithinBrackets (outer.length + 1) (State.takeAll (lexemes (c :: rest)) s)
      (State.takeAll (lexemes rest) inside) := by
  have htake : s.take ⟨kind, c :: rest⟩ = openInside ⟨kind, c :: rest⟩ outer inside :=
    (hs _ hkind).trans (hopen _)
  rw [lexemes_punctuation rest hc]
  unfold openInside at htake
  split at htake
  · rename_i hlt
    exact .of_eq hlt (takeAll_cons _ htake)
  · rename_i hlt
    refine ⟨fun hle => absurd hle hlt, fun _ => ?_⟩
    rw [State.takeAll, htake]
    exact ⟨_, rfl⟩

/-! ## What the text of a value does to a state that awaits a value -/

/-- The text of the value takes every state that awaits a value to the one in which it has it. -/
def ReadsBack (j : Json) : Prop :=
  ∀ (s : State) (outer : List Frame) (rest : List Char), s.Awaits outer →
    outer.length ≤ maxOpen → EndsNumeral rest →
      WithinBrackets (outer.length + j.brackets)
        (State.takeAll (lexemes (j.compact.toList ++ rest)) s)
        (State.takeAll (lexemes rest) (supply j outer))

/-- A value whose text is a single lexeme is read back. -/
theorem readsBack_of_lexeme {j : Json} (hj : j.brackets = 0)
    (h : ∀ rest, EndsNumeral rest → ∃ l, lexemes (j.compact.toList ++ rest) = l :: lexemes rest ∧
      l.kind ≠ .endList ∧ ∀ outer, beginValue l outer = .ok (supply j outer)) : ReadsBack j := by
  intro s outer rest hs houter hrest
  obtain ⟨l, hlexemes, hkind, hbegin⟩ := h rest hrest
  rw [hj, hlexemes]
  exact .of_eq houter (takeAll_cons _ ((hs l hkind).trans (hbegin outer)))

theorem endsNumeral_items (items : List Json) (rest : List Char) :
    EndsNumeral ((compactItems items).toList ++ ']' :: rest) := by
  cases items with
  | nil => exact endsNumeral_cons _ (by decide)
  | cons x xs =>
    rw [compactItems, String.toList_append, String.toList_append]
    exact endsNumeral_cons _ (by decide)

theorem endsNumeral_members (members : List (String × Json)) (rest : List Char) :
    EndsNumeral ((compactMembers members).toList ++ '\x7d' :: rest) := by
  cases members with
  | nil => exact endsNumeral_cons _ (by decide)
  | cons m ms =>
    rw [compactMembers]
    simp only [String.toList_append]
    exact endsNumeral_cons _ (by decide)

/-! ## Lists -/

theorem takeAll_compactItems {items : List Json} (IH : ∀ x ∈ items, ReadsBack x)
    (done : List Json) (houter : outer.length + 1 ≤ maxOpen) :
    WithinBrackets (outer.length + 1 + bracketsOfItems items)
      (State.takeAll (lexemes ((compactItems items).toList ++ ']' :: rest)) (.afterItem done outer))
      (State.takeAll (lexemes rest) (supply (.array (done.reverse ++ items)) outer)) := by
  induction items generalizing done with
  | nil =>
    rw [List.append_nil]
    refine .of_eq houter ?_
    show State.takeAll (lexemes (']' :: rest)) _ = _
    rw [lexemes_punctuation rest rfl]
    exact takeAll_cons _ rfl
  | cons x xs ih =>
    obtain ⟨hx, hxs⟩ := List.forall_mem_cons.mp IH
    have htext : (compactItems (x :: xs)).toList ++ ']' :: rest =
        ',' :: (x.compact.toList ++ ((compactItems xs).toList ++ ']' :: rest)) := by
      rw [compactItems]
      simp only [String.toList_append, List.append_assoc]
      rfl
    have hitem := hx (.nextItem done outer) (.item done :: outer) _ (awaits_nextItem done outer)
      houter (endsNumeral_items xs rest)
    have hboth := hitem.trans fun _ => ih hxs (x :: done)
    rw [List.length_cons, Nat.add_max_add_left, List.reverse_cons, List.append_assoc,
      List.singleton_append] at hboth
    rw [htext, lexemes_punctuation _ rfl, takeAll_cons _ rfl, bracketsOfItems]
    exact hboth

theorem readsBack_array {items : List Json} (IH : ∀ x ∈ items, ReadsBack x) :
    ReadsBack (.array items) := by
  intro s outer rest hs houter hrest
  have hopen : ∀ rest, WithinBrackets (outer.length + 1) (State.takeAll (lexemes ('[' :: rest)) s)
      (State.takeAll (lexemes rest) (.firstItem outer)) :=
    fun rest => takeAll_open hs rfl (fun h => nomatch h) fun _ => rfl
  cases items with
  | nil =>
    have htext : (compact (.array [])).toList ++ rest = '[' :: ']' :: rest := rfl
    have hclose : State.takeAll (lexemes (']' :: rest)) (.firstItem outer) =
        State.takeAll (lexemes rest) (supply (.array []) outer) := by
      rw [lexemes_punctuation rest rfl]
      exact takeAll_cons _ rfl
    rw [htext, ← hclose, brackets, bracketsOfItems]
    exact hopen _
  | cons x xs =>
    obtain ⟨hx, hxs⟩ := List.forall_mem_cons.mp IH
    have htext : (compact (.array (x :: xs))).toList ++ rest =
        '[' :: (x.compact.toList ++ ((compactItems xs).toList ++ ']' :: rest)) := by
      rw [compact]
      simp only [String.toList_append, List.append_assoc]
      rfl
    have hall := (hopen _).trans fun hle =>
      (hx (.firstItem outer) (.item [] :: outer) _ (awaits_firstItem outer) hle
        (endsNumeral_items xs rest)).trans fun _ => takeAll_compactItems hxs [x] hle
    rw [htext, brackets, bracketsOfItems]
    rw [List.length_cons, Nat.add_max_add_left, Nat.max_eq_right (Nat.le_add_right _ _),
      Nat.add_assoc] at hall
    exact hall

/-! ## Objects -/

/-- A key above all others is put behind them. -/
theorem insert_of_forall_lt {key : String} {value : Json} {members : List (String × Json)}
    (h : ∀ m ∈ members, m.1 < key) : insert key value members = members ++ [(key, value)] := by
  induction members with
  | nil => rfl
  | cons m ms ih =>
    obtain ⟨hm, hms⟩ := List.forall_mem_cons.mp h
    have hnot : ¬ key < m.1 := fun hlt => Std.lt_irrefl (Std.lt_trans hm hlt)
    have hne : key ≠ m.1 := fun heq => Std.lt_irrefl (heq ▸ hm)
    rw [insert, if_neg hnot, if_neg hne, ih hms, List.cons_append]

theorem takeAll_member (key : String) {x : Json} (hx : ReadsBack x)
    {done : List (String × Json)} (hs : s.AwaitsKey done outer)
    (houter : outer.length + 1 ≤ maxOpen) (hrest : EndsNumeral rest) :
    WithinBrackets (outer.length + 1 + x.brackets)
      (State.takeAll (lexemes ((quoted key).toList ++ ':' :: (x.compact.toList ++ rest))) s)
      (State.takeAll (lexemes rest) (.afterMember (insert key x done) outer)) := by
  obtain ⟨parts, close, hlexemes, hkey⟩ :=
    lexemes_quoted key (':' :: (x.compact.toList ++ rest))
  have htake := hs parts close ((quoted key).toList ++ ':' :: (x.compact.toList ++ rest))
  rw [hkey] at htake
  rw [hlexemes, takeAll_cons _ htake, lexemes_punctuation _ rfl, takeAll_cons _ rfl]
  exact hx _ (.member done key :: outer) rest (awaits_value _) houter hrest

theorem takeAll_compactMembers {members : List (String × Json)}
    (IH : ∀ m ∈ members, ReadsBack m.2) (done : List (String × Json))
    (hsorted : Ascending (done ++ members)) (houter : outer.length + 1 ≤ maxOpen) :
    WithinBrackets (outer.length + 1 + bracketsOfMembers members)
      (State.takeAll (lexemes ((compactMembers members).toList ++ '\x7d' :: rest))
        (.afterMember done outer))
      (State.takeAll (lexemes rest) (supply (.object (done ++ members)) outer)) := by
  induction members generalizing done with
  | nil =>
    rw [List.append_nil]
    refine .of_eq houter ?_
    show State.takeAll (lexemes ('\x7d' :: rest)) _ = _
    rw [lexemes_punctuation rest rfl]
    exact takeAll_cons _ rfl
  | cons m ms ih =>
    obtain ⟨key, x⟩ := m
    obtain ⟨hx, hms⟩ := List.forall_mem_cons.mp IH
    have htext : (compactMembers ((key, x) :: ms)).toList ++ '\x7d' :: rest =
        ',' :: ((quoted key).toList ++ ':' :: (x.compact.toList ++
          ((compactMembers ms).toList ++ '\x7d' :: rest))) := by
      rw [compactMembers]
      simp only [String.toList_append, List.append_assoc]
      rfl
    -- the key is above those read before it, so it is put where it stands in the text
    have hinsert : insert key x done = done ++ [(key, x)] :=
      insert_of_forall_lt fun m hm =>
        (List.pairwise_append.mp hsorted).2.2 m hm (key, x) List.mem_cons_self
    have hmember := takeAll_member key hx (awaitsKey_nextKey done outer) houter
      (endsNumeral_members ms rest)
    rw [hinsert] at hmember
    have happend : done ++ [(key, x)] ++ ms = done ++ (key, x) :: ms := by
      rw [List.append_assoc, List.singleton_append]
    have hboth := hmember.trans fun _ => ih hms (done ++ [(key, x)]) (happend ▸ hsorted)
    rw [Nat.add_max_add_left, happend] at hboth
    rw [htext, lexemes_punctuation _ rfl, takeAll_cons _ rfl, bracketsOfMembers]
    exact hboth

theorem readsBack_object {members : List (String × Json)} (hsorted : Ascending members)
    (IH : ∀ m ∈ members, ReadsBack m.2) : ReadsBack (.object members) := by
  intro s outer rest hs houter hrest
  have hopen : ∀ rest, WithinBrackets (outer.length + 1)
      (State.takeAll (lexemes ('\x7b' :: rest)) s)
      (State.takeAll (lexemes rest) (.firstKey outer)) :=
    fun rest => takeAll_open hs rfl (fun h => nomatch h) fun _ => rfl
  cases members with
  | nil =>
    have htext : (compact (.object [])).toList ++ rest = '\x7b' :: '\x7d' :: rest := rfl
    have hclose : State.takeAll (lexemes ('\x7d' :: rest)) (.firstKey outer) =
        State.takeAll (lexemes rest) (supply (.object []) outer) := by
      rw [lexemes_punctuation rest rfl]
      exact takeAll_cons _ rfl
    rw [htext, ← hclose, brackets, bracketsOfMembers]
    exact hopen _
  | cons m ms =>
    obtain ⟨key, x⟩ := m
    obtain ⟨hx, hms⟩ := List.forall_mem_cons.mp IH
    have htext : (compact (.object ((key, x) :: ms))).toList ++ rest =
        '\x7b' :: ((quoted key).toList ++ ':' :: (x.compact.toList ++
          ((compactMembers ms).toList ++ '\x7d' :: rest))) := by
      rw [compact]
      simp only [String.toList_append, List.append_assoc]
      rfl
    have hall := (hopen _).trans fun hle =>
      (takeAll_member key hx (awaitsKey_firstKey outer) hle
        (endsNumeral_members ms rest)).trans fun _ =>
          takeAll_compactMembers hms [(key, x)] hsorted hle
    rw [htext, brackets, bracketsOfMembers]
    rw [Nat.add_max_add_left, Nat.max_eq_right (Nat.le_add_right _ _), Nat.add_assoc] at hall
    exact hall

end

/-! ## All values -/

theorem readsBack_word {c : Char} {letters : List Char} {j : Json} (hj : j.brackets = 0)
    (hword : word? c = some (letters, j)) (htext : j.compact.toList = c :: letters)
    (hspell : ∀ rest, spell letters (letters ++ rest) = .ok rest) : ReadsBack j := by
  refine readsBack_of_lexeme hj fun rest _ => ?_
  rw [htext]
  exact ⟨_, lexemes_word rest hword (hspell rest), fun h => (nomatch h), fun _ => rfl⟩

/-- **The text of a plain value is read back**, in whatever state a value is awaited. -/
theorem readsBack_of_plain {j : Json} (hj : j.Plain) : ReadsBack j := by
  induction hj with
  | null => exact readsBack_word rfl rfl rfl fun _ => rfl
  | bool b =>
    cases b with
    | true => exact readsBack_word rfl rfl rfl fun _ => rfl
    | false => exact readsBack_word rfl rfl rfl fun _ => rfl
  | number hinteger =>
    exact readsBack_of_lexeme rfl fun rest hrest =>
      ⟨_, lexemes_number hinteger hrest, fun h => (nomatch h), fun _ => rfl⟩
  | string s =>
    refine readsBack_of_lexeme rfl fun rest _ => ?_
    obtain ⟨parts, close, hlexemes, hstring⟩ := lexemes_quoted s rest
    refine ⟨_, hlexemes, fun h => (nomatch h), fun outer => ?_⟩
    rw [beginValue]
    dsimp only
    rw [hstring]
    rfl
  | array _ ih => exact readsBack_array ih
  | object hsorted _ ih => exact readsBack_object hsorted ih

/-- **A plain value is read from its text exactly if the brackets allow it.** -/
theorem read_compact {j : Json} (hj : j.Plain) :
    (j.brackets ≤ maxOpen → read j.compact = .ok j) ∧
      (maxOpen < j.brackets → ∃ left, read j.compact = .error ⟨.tooDeep, left⟩) := by
  have hwithin := readsBack_of_plain hj (.value []) [] [] (awaits_value []) (Nat.zero_le _)
    endsNumeral_nil
  rw [List.append_nil, List.length_nil, Nat.zero_add] at hwithin
  refine ⟨fun hle => ?_, fun hlt => ?_⟩
  · rw [read, hwithin.1 hle, lexemes]
    rfl
  · obtain ⟨left, h⟩ := hwithin.2 hlt
    refine ⟨left, ?_⟩
    rw [read, h]

end MailFilter.Json
