import MailFilter.Proofs.Built
import MailFilter.Proofs.Limit

/-!
# The search dialect can be read

A command in the search dialect has no brackets where Polish notation has none, and three forms of
its own that all start with a bracket. All the same it can be read from its start to its end. A
word that no operator has is a leaf, and any other word tells how many operands follow. Behind a
bracket comes a whole operand, and the character behind that operand tells what the bracket means:
a closing bracket ends a flag test, a space stands before the bounds of a range.

`readPhrase` is this reader. **It gives back an expression that was built with the constructors**
(`readPhrase_searchText`), up to what is not in the text: whether a leaf is a literal or a name,
and the boolean of a flag test. Two expressions with one text therefore differ in nothing else.
-/

namespace MailFilter

/-! ## What is not in the text -/

/-- The operands without the boolean, if they are behind the first operand of a flag test. -/
def forgetPolarity : Operator → List Operand → List Operand
  | .eq, .value (.bool _) :: others => .value .null :: others
  | _, rest => rest

mutual

/-- An expression without the booleans of its flag tests. -/
def Expression.unpolarized : Expression → Expression
  | .node op first rest =>
    .node op first.unpolarized (forgetPolarity op (Operand.unpolarizedList rest))

/-- An operand without the booleans of its flag tests. -/
def Operand.unpolarized : Operand → Operand
  | .value scalar => .value scalar
  | .field name => .field name
  | .identifier name => .identifier name
  | .nested e => .nested e.unpolarized

/-- Operands without the booleans of their flag tests. -/
def Operand.unpolarizedList : List Operand → List Operand
  | [] => []
  | o :: os => o.unpolarized :: Operand.unpolarizedList os

end

/-- What is left of an operand in its text. -/
def Operand.readable (o : Operand) : Operand :=
  o.unpolarized.shown

/-- The leaves that are written as one word: names that can be keys, integers and booleans. -/
inductive Operand.OneWord : Operand → Prop
  | field {name : String} : isFieldName name = true → Operator.ofToken? name = none →
      Operand.OneWord (.field name)
  | integer (i : Int64) : Operand.OneWord (.value (.integer i))
  | bool (b : Bool) : Operand.OneWord (.value (.bool b))

/-! ## A reader -/

/-- Whether a word goes on with the character. -/
def inWord (c : Char) : Bool :=
  c != ' ' && c != ':' && c != ')'

/-- The operator that has the word. -/
def Operator.ofWord? (word : List Char) : Option Operator :=
  all.find? fun op => op.word.toList == word

/-- What reads an operand at the start of a text, and gives what follows it too. -/
abbrev PhraseReader := List Char → Option (Operand × List Char)

/-- Reads so many bounds at most, up to the bracket that closes a range, and whether it is open. -/
def readBounds (read : PhraseReader) : Nat → List Char → Option (List Operand × Bool × List Char)
  | 0, _ => none
  | count + 1, cs =>
    match read cs with
    | some (bound, ')' :: cs) => some ([bound], false, cs)
    | some (bound, ':' :: cs) =>
      if cs.head? = some '*' then some ([bound], true, cs.drop 2)
      else match readBounds read count cs with
        | some (bounds, isOpen, cs) => some (bound :: bounds, isOpen, cs)
        | none => none
    | _ => none

/-- Reads what stands behind an opening bracket. -/
def readBracketed (read : PhraseReader) (count : Nat) : PhraseReader := fun cs =>
  match read cs with
  | some (name, ')' :: cs) => some (.nested (.eq name (.value (.string ""))), cs)
  | some (subject, ' ' :: cs) =>
    match readBounds read count cs with
    | some (bounds, isOpen, cs) =>
      some (.nested (.node (if isOpen then .ge else .isIn) subject bounds), cs)
    | none => none
  | _ => none

/-- Reads a word, and the operands if it is the word of an operator. -/
def readUnbracketed (read : PhraseReader) : PhraseReader := fun cs =>
  let word := cs.takeWhile inWord
  let after := cs.dropWhile inWord
  match Operator.ofWord? word with
  | none => some (.value (.string (String.ofList word)), after)
  | some op =>
    match read after.tail with
    | none => none
    | some (first, cs) =>
      if op = .not then some (.nested (.not first), cs)
      else match read cs.tail with
        | some (second, cs) => some (.nested (.node op first [second]), cs)
        | none => none

/-- Reads an operand in which fewer than so many operands are one in the other. -/
def readPhrase : Nat → PhraseReader
  | 0, _ => none
  | fuel + 1, '(' :: cs => readBracketed (readPhrase fuel) fuel cs
  | fuel + 1, cs => readUnbracketed (readPhrase fuel) cs

/-! ## Words -/

/-- Where something can end: before a character of no word, or where nothing follows. -/
def EndsPhrase (rest : List Char) : Prop :=
  ∀ c ∈ rest.head?, inWord c = false

theorem endsPhrase_nil : EndsPhrase [] :=
  fun _ h => nomatch h

theorem endsPhrase_cons {c : Char} {rest : List Char} (h : inWord c = false) :
    EndsPhrase (c :: rest) := by
  intro d hd
  obtain rfl := Option.some.inj hd
  exact h

theorem endsPhrase_space (rest : List Char) : EndsPhrase (' ' :: rest) :=
  endsPhrase_cons (by decide)

theorem span_word {word rest : List Char} (hword : ∀ c ∈ word, inWord c = true)
    (hrest : EndsPhrase rest) :
    (word ++ rest).takeWhile inWord = word ∧ (word ++ rest).dropWhile inWord = rest := by
  rw [List.takeWhile_append_of_pos hword, List.dropWhile_append_of_pos hword]
  cases rest with
  | nil => exact ⟨List.append_nil word, rfl⟩
  | cons c cs =>
    have hc : ¬ inWord c = true := by rw [hrest c rfl]; exact Bool.false_ne_true
    rw [List.takeWhile_cons_of_neg hc, List.dropWhile_cons_of_neg hc]
    exact ⟨List.append_nil word, rfl⟩

theorem Operator.ofWord?_word (op : Operator) : ofWord? op.word.toList = some op := by
  cases op <;> decide

theorem Operator.inWord_of_mem_word (op : Operator) : ∀ c ∈ op.word.toList, inWord c = true := by
  refine List.all_eq_true.mp ?_
  cases op <;> decide

/-- No word of an operator starts like a bracketed form or the end of an open range. -/
theorem Operator.word_eq_cons (op : Operator) :
    ∃ c cs, op.word.toList = c :: cs ∧ c ≠ '*' ∧ c ≠ '(' := by
  cases op <;> exact ⟨_, _, rfl, by decide, by decide⟩

theorem Operator.ofWord?_eq_none {word : List Char} (h : ∀ op : Operator, op.word.toList ≠ word) :
    ofWord? word = none := by
  refine List.find?_eq_none.mpr fun op _ => ?_
  rw [beq_iff_eq]
  exact h op

/-- The word of an operator has a character that is not in the text of any integer. -/
theorem Operator.exists_mem_word (op : Operator) :
    ∃ c ∈ op.word.toList, c.isDigit = false ∧ c ≠ '-' := by
  have hany : op.word.toList.any (fun c => !c.isDigit && c != '-') = true := by
    cases op <;> decide
  simpa using hany

theorem mem_intText {i : Int} {c : Char} (h : c ∈ (toString i).toList) :
    c.isDigit = true ∨ c = '-' := by
  rw [Int.toString_eq_repr, Int.repr_eq_if] at h
  have hdigits : ∀ n : Nat, c ∈ n.repr.toList → c.isDigit = true := by
    intro n hc
    rw [Nat.toList_repr] at hc
    exact Nat.isDigit_of_mem_toDigits (by decide) (by decide) hc
  split at h
  · exact .inl (hdigits _ h)
  · rw [String.toList_append] at h
    rcases List.mem_append.mp h with hc | hc
    · exact .inr (List.mem_singleton.mp hc)
    · exact .inl (hdigits _ hc)

theorem intText_ne_nil (i : Int) : (toString i).toList ≠ [] := by
  rw [Int.toString_eq_repr, Int.repr_eq_if]
  split
  · rw [Nat.toList_repr]
    exact Nat.toDigits_ne_nil
  · rw [String.toList_append]
    exact List.cons_ne_nil _ _

/-- A word that is no operator's. -/
structure PlainWord (word : List Char) : Prop where
  ne_nil : word ≠ []
  part : ∀ c ∈ word, isFieldPart c = true
  unlike : ∀ op : Operator, op.word.toList ≠ word

theorem PlainWord.eq_cons {word : List Char} (h : PlainWord word) :
    ∃ c cs, word = c :: cs ∧ c ≠ '*' ∧ c ≠ '(' := by
  obtain ⟨c, cs, hword⟩ := List.exists_cons_of_ne_nil h.ne_nil
  have hpart := h.part c (hword ▸ List.mem_cons_self)
  have hne : ∀ d : Char, isFieldPart d = false → c ≠ d := fun d hd hcd => by
    rw [hcd, hd] at hpart
    cases hpart
  exact ⟨c, cs, hword, hne '*' (by decide), hne '(' (by decide)⟩

theorem Operand.OneWord.plainWord {o : Operand} (h : o.OneWord) :
    PlainWord o.searchText.toList := by
  cases h with
  | @field name hname hop =>
    obtain ⟨hne, hpart⟩ := isFieldPart_of_isFieldName hname
    refine ⟨hne, hpart, fun op hword => ?_⟩
    have hname : name = op.word := String.toList_inj.mp hword.symm
    rw [hname, op.ofToken?_word] at hop
    cases hop
  | integer i =>
    refine ⟨intText_ne_nil _, fun c hc => ?_, fun op hword => ?_⟩
    · rcases mem_intText hc with hdigit | rfl
      · simp [isFieldPart, Char.isAlphanum, hdigit]
      · decide
    · obtain ⟨c, hc, hdigit, hminus⟩ := op.exists_mem_word
      rw [hword] at hc
      rcases mem_intText hc with h | h
      · rw [hdigit] at h
        cases h
      · exact hminus h
  | bool b =>
    refine ⟨?_, List.all_eq_true.mp ?_, fun op => ?_⟩
    · cases b <;> decide
    · cases b <;> decide
    · cases b <;> cases op <;> decide

theorem inWord_of_isFieldPart {c : Char} (h : isFieldPart c = true) : inWord c = true := by
  have hne : ∀ d : Char, isFieldPart d = false → (c != d) = true := fun d hd =>
    bne_iff_ne.mpr fun hcd => by rw [hcd, hd] at h; cases h
  rw [inWord, hne ' ' (by decide), hne ':' (by decide), hne ')' (by decide)]
  rfl

/-! ## Reading one form, if its operands are read -/

/-- An operand is read wherever it can end. -/
def Reads (read : PhraseReader) (o : Operand) : Prop :=
  ∀ rest, EndsPhrase rest → read (o.searchText.toList ++ rest) = some (o.readable, rest)

section

variable {read : PhraseReader} {count : Nat} {rest : List Char}

theorem readUnbracketed_plain {word : List Char} (h : PlainWord word) (hrest : EndsPhrase rest) :
    readUnbracketed read (word ++ rest) = some (.value (.string (String.ofList word)), rest) := by
  obtain ⟨htake, hdrop⟩ := span_word (fun c hc => inWord_of_isFieldPart (h.part c hc)) hrest
  rw [readUnbracketed, htake, hdrop, Operator.ofWord?_eq_none h.unlike]

theorem readUnbracketed_not {a : Operand} (ha : Reads read a) (hrest : EndsPhrase rest) :
    readUnbracketed read (Operator.not.word.toList ++ ' ' :: (a.searchText.toList ++ rest)) =
      some (.nested (.not a.readable), rest) := by
  obtain ⟨htake, hdrop⟩ := span_word Operator.not.inWord_of_mem_word
    (endsPhrase_space (a.searchText.toList ++ rest))
  rw [readUnbracketed, htake, hdrop, Operator.ofWord?_word]
  dsimp only
  rw [List.tail_cons, ha rest hrest]
  rfl

theorem readUnbracketed_binary {op : Operator} {a b : Operand} (hop : op ≠ .not)
    (ha : Reads read a) (hb : Reads read b) (hrest : EndsPhrase rest) :
    readUnbracketed read (op.word.toList ++
        ' ' :: (a.searchText.toList ++ ' ' :: (b.searchText.toList ++ rest))) =
      some (.nested (.node op a.readable [b.readable]), rest) := by
  obtain ⟨htake, hdrop⟩ := span_word op.inWord_of_mem_word
    (endsPhrase_space (a.searchText.toList ++ ' ' :: (b.searchText.toList ++ rest)))
  rw [readUnbracketed, htake, hdrop, Operator.ofWord?_word]
  dsimp only
  rw [List.tail_cons, ha _ (endsPhrase_space _)]
  dsimp only
  rw [if_neg hop, List.tail_cons, hb rest hrest]

theorem readBracketed_flag {name : Operand} (hname : Reads read name) :
    readBracketed read count (name.searchText.toList ++ ')' :: rest) =
      some (.nested (.eq name.readable (.value (.string ""))), rest) := by
  rw [readBracketed, hname _ (endsPhrase_cons (by decide))]
  rfl

/-- The end of a range. -/
def closing (isOpen : Bool) : List Char :=
  if isOpen then [':', '*', ')'] else [')']

/-- The texts of bounds with colons between them. -/
def joined (bounds : List Operand) : List Char :=
  (":".intercalate (Operand.searchTexts bounds)).toList

theorem joined_singleton (bound : Operand) : joined [bound] = bound.searchText.toList := by
  rw [joined, Operand.searchTexts, Operand.searchTexts, String.intercalate_singleton]

theorem joined_cons_cons (bound next : Operand) (bounds : List Operand) :
    joined (bound :: next :: bounds) =
      bound.searchText.toList ++ ':' :: joined (next :: bounds) := by
  simp only [joined, Operand.searchTexts, String.intercalate_cons_cons, String.toList_append,
    List.append_assoc]
  rfl

theorem joined_eq_append (bound : Operand) (bounds : List Operand) :
    ∃ others, joined (bound :: bounds) = bound.searchText.toList ++ others := by
  cases bounds with
  | nil => exact ⟨[], by rw [joined_singleton, List.append_nil]⟩
  | cons next bounds => exact ⟨_, joined_cons_cons bound next bounds⟩

theorem length_le_joined {bound : Operand} {bounds : List Operand} :
    ∀ o ∈ bound :: bounds, o.searchText.toList.length ≤ (joined (bound :: bounds)).length := by
  induction bounds generalizing bound with
  | nil =>
    intro o ho
    obtain rfl := List.mem_singleton.mp ho
    exact Nat.le_of_eq (congrArg List.length (joined_singleton o).symm)
  | cons next bounds ih =>
    intro o ho
    rw [joined_cons_cons, List.length_append, List.length_cons]
    rcases List.mem_cons.mp ho with rfl | ho
    · omega
    · have hle := ih o ho
      omega

theorem length_bounds_le (bound : Operand) (bounds : List Operand) :
    bounds.length ≤ (joined (bound :: bounds)).length := by
  induction bounds generalizing bound with
  | nil => exact Nat.zero_le _
  | cons next bounds ih =>
    have hle := ih next
    rw [joined_cons_cons, List.length_append, List.length_cons, List.length_cons]
    omega

/-- **The bounds of a range are read** up to its end, if no bound but the first starts with a
star. -/
theorem readBounds_joined {isOpen : Bool} {bound : Operand} {bounds : List Operand}
    (hreads : ∀ o ∈ bound :: bounds, Reads read o)
    (hstart : ∀ o ∈ bounds, ∃ c cs, o.searchText.toList = c :: cs ∧ c ≠ '*')
    (hcount : bounds.length < count) :
    readBounds read count (joined (bound :: bounds) ++ (closing isOpen ++ rest)) =
      some ((bound :: bounds).map Operand.readable, isOpen, rest) := by
  induction bounds generalizing bound count with
  | nil =>
    obtain ⟨count, rfl⟩ := Nat.exists_eq_add_one_of_ne_zero (Nat.ne_zero_of_lt hcount)
    have hbound := hreads bound List.mem_cons_self
    rw [joined_singleton, readBounds]
    cases isOpen with
    | true =>
      rw [show closing true ++ rest = ':' :: '*' :: ')' :: rest from rfl,
        hbound _ (endsPhrase_cons (by decide))]
      rfl
    | false =>
      rw [show closing false ++ rest = ')' :: rest from rfl,
        hbound _ (endsPhrase_cons (by decide))]
      rfl
  | cons next bounds ih =>
    obtain ⟨count, rfl⟩ := Nat.exists_eq_add_one_of_ne_zero (Nat.ne_zero_of_lt hcount)
    obtain ⟨hbound, hbounds⟩ := List.forall_mem_cons.mp hreads
    obtain ⟨⟨c, cs, hc, hne⟩, hstart⟩ := List.forall_mem_cons.mp hstart
    have hrest := ih hbounds hstart (Nat.lt_of_succ_lt_succ hcount)
    -- a bound is behind the colon, so it is not the colon of an open range
    have hhead : (joined (next :: bounds) ++ (closing isOpen ++ rest)).head? ≠ some '*' := by
      obtain ⟨others, hjoined⟩ := joined_eq_append next bounds
      rw [hjoined, hc]
      exact fun h => hne (Option.some.inj h)
    rw [joined_cons_cons, List.append_assoc, List.cons_append, readBounds,
      hbound _ (endsPhrase_cons (by decide))]
    simp only [if_neg hhead, hrest, List.map_cons]

theorem readBracketed_range (isOpen : Bool) {subject bound : Operand} {bounds : List Operand}
    (hsubject : Reads read subject) (hreads : ∀ o ∈ bound :: bounds, Reads read o)
    (hstart : ∀ o ∈ bounds, ∃ c cs, o.searchText.toList = c :: cs ∧ c ≠ '*')
    (hcount : bounds.length < count) :
    readBracketed read count (subject.searchText.toList ++
        ' ' :: (joined (bound :: bounds) ++ (closing isOpen ++ rest))) =
      some (.nested (.node (if isOpen then .ge else .isIn) subject.readable
        ((bound :: bounds).map Operand.readable)), rest) := by
  rw [readBracketed, hsubject _ (endsPhrase_space _)]
  simp only [readBounds_joined hreads hstart hcount]

end

/-! ## The forms of the dialect -/

/-- Built from leaves of one word, with message numbers as the only subject of a membership. -/
abbrev Expression.Searchable (e : Expression) : Prop :=
  e.Built Operand.OneWord (· = .field uidField)

/-- A leaf of one word or a searchable expression. -/
abbrev Operand.Searchable (o : Operand) : Prop :=
  o.Built Operand.OneWord (· = .field uidField)

/-- The forms in which an expression can be written. -/
inductive SearchForm : Expression → Prop
  | openRange {bound : Operand} : bound.Searchable → SearchForm (.ge (.field uidField) bound)
  | range {bound : Operand} {bounds : List Operand} : (∀ o ∈ bound :: bounds, o.Searchable) →
      SearchForm (.isIn (.field uidField) (bound :: bounds))
  | flag {name : Operand} {b : Bool} : name.Searchable → SearchForm (.eq name (.value (.bool b)))
  | unary {a : Operand} : a.Searchable → SearchForm (.not a)
  | binary {op : Operator} {a b : Operand} : op ≠ .not → shorthand? op a [b] = none →
      a.Searchable → b.Searchable → SearchForm (.node op a [b])

theorem SearchForm.of_searchable {e : Expression} (h : e.Searchable) : SearchForm e := by
  obtain ⟨op, first, rest⟩ := e
  cases h.arranged with
  | @binary _ _ b hnot hisIn ha hb =>
    cases hshort : shorthand? op first [b] with
    | none => exact .binary hnot hshort ha hb
    | some form =>
      cases form with
      | openRange =>
        obtain ⟨rfl, rfl⟩ := shorthand?_eq_openRange_iff.mp hshort
        exact .openRange hb
      | range => exact absurd (shorthand?_eq_range_iff.mp hshort).1 hisIn
      | flag =>
        obtain ⟨rfl, b, others, hrest⟩ := shorthand?_eq_flag_iff.mp hshort
        obtain ⟨rfl, -⟩ := List.cons.inj hrest
        exact .flag ha
  | unary ha => exact .unary ha
  | membership hsubject hne hcandidates =>
    subst hsubject
    obtain ⟨bound, bounds, rfl⟩ := List.exists_cons_of_ne_nil hne
    exact .range hcandidates

theorem searchText_openRange (bound : Operand) :
    (Expression.ge (.field uidField) bound).searchText.toList =
      '(' :: (uidField.toList ++ ' ' :: (joined [bound] ++ closing true)) := by
  rw [Expression.ge, Expression.searchText, shorthand?_eq_openRange_iff.mpr ⟨rfl, rfl⟩]
  simp only [String.toList_append, joined, List.append_assoc]
  rfl

theorem searchText_range (bounds : List Operand) :
    (Expression.isIn (.field uidField) bounds).searchText.toList =
      '(' :: (uidField.toList ++ ' ' :: (joined bounds ++ closing false)) := by
  rw [Expression.isIn, Expression.searchText, shorthand?_eq_range_iff.mpr ⟨rfl, rfl⟩]
  simp only [String.toList_append, joined, List.append_assoc]
  rfl

theorem searchText_flag (name : Operand) (b : Bool) :
    (Expression.eq name (.value (.bool b))).searchText.toList =
      '(' :: (name.searchText.toList ++ [')']) := by
  rw [Expression.eq, Expression.searchText, shorthand?_eq_flag_iff.mpr ⟨rfl, b, [], rfl⟩]
  simp only [String.toList_append]
  rfl

theorem searchText_unary (a : Operand) : (Expression.not a).searchText.toList =
    Operator.not.word.toList ++ ' ' :: a.searchText.toList := by
  have hshort : shorthand? .not a [] = none := rfl
  rw [Expression.not, Expression.searchText, hshort]
  simp only [Operand.searchTexts, String.intercalate_cons_cons, String.intercalate_singleton,
    String.toList_append, List.append_assoc]
  rfl

theorem searchText_binary {op : Operator} {a b : Operand} (h : shorthand? op a [b] = none) :
    (Expression.node op a [b]).searchText.toList =
      op.word.toList ++ ' ' :: (a.searchText.toList ++ ' ' :: b.searchText.toList) := by
  rw [Expression.searchText, h]
  simp only [Operand.searchTexts, String.intercalate_cons_cons, String.intercalate_singleton,
    String.toList_append, List.append_assoc]
  rfl

/-! ## Reading back -/

theorem Operand.Searchable.start {o : Operand} (h : o.Searchable) :
    ∃ c cs, o.searchText.toList = c :: cs ∧ c ≠ '*' := by
  cases h with
  | leaf h =>
    obtain ⟨c, cs, hc, hstar, -⟩ := h.plainWord.eq_cons
    exact ⟨c, cs, hc, hstar⟩
  | nested he =>
    rw [Operand.searchText]
    cases SearchForm.of_searchable he with
    | openRange => exact ⟨_, _, searchText_openRange _, by decide⟩
    | range => exact ⟨_, _, searchText_range _, by decide⟩
    | flag => exact ⟨_, _, searchText_flag _ _, by decide⟩
    | unary =>
      obtain ⟨c, cs, hc, hstar, -⟩ := Operator.word_eq_cons .not
      exact ⟨c, _, by rw [searchText_unary, hc]; rfl, hstar⟩
    | @binary op _ _ _ hshort =>
      obtain ⟨c, cs, hc, hstar, -⟩ := op.word_eq_cons
      exact ⟨c, _, by rw [searchText_binary hshort, hc]; rfl, hstar⟩

theorem shownList_unpolarizedList (os : List Operand) :
    Operand.shownList (Operand.unpolarizedList os) = os.map Operand.readable := by
  induction os with
  | nil => rfl
  | cons o os ih => rw [Operand.unpolarizedList, Operand.shownList, ih]; rfl

theorem readable_nested (op : Operator) (first : Operand) (rest : List Operand) :
    (Operand.nested (.node op first rest)).readable = .nested (.node op first.readable
      (Operand.shownList (forgetPolarity op (Operand.unpolarizedList rest)))) := rfl

theorem forgetPolarity_of_ne {op : Operator} {rest : List Operand} (h : op ≠ .eq) :
    forgetPolarity op rest = rest := by
  cases op with
  | eq => exact absurd rfl h
  | _ => rfl

theorem readable_isIn (subject : Operand) (bounds : List Operand) :
    (Operand.nested (.isIn subject bounds)).readable =
      .nested (.node .isIn subject.readable (bounds.map Operand.readable)) := by
  rw [Expression.isIn, readable_nested, forgetPolarity_of_ne (by decide),
    shownList_unpolarizedList]

theorem readable_binary {op : Operator} {a b : Operand} (h : shorthand? op a [b] = none) :
    (Operand.nested (.node op a [b])).readable =
      .nested (.node op a.readable [b.readable]) := by
  have hforget : forgetPolarity op [b.unpolarized] = [b.unpolarized] := by
    by_cases hop : op = .eq
    · subst hop
      -- the second operand is no boolean, or there was a shorthand
      cases b with
      | value scalar =>
        cases scalar with
        | bool b => cases h
        | _ => rfl
      | _ => rfl
    · exact forgetPolarity_of_ne hop
  rw [readable_nested, Operand.unpolarizedList, Operand.unpolarizedList, hforget]
  rfl

theorem Operand.OneWord.readable_eq {o : Operand} (h : o.OneWord) :
    o.readable = .value (.string o.searchText) := by
  cases h <;> rfl

theorem readPhrase_of_ne {fuel : Nat} {c : Char} {cs : List Char} (h : c ≠ '(') :
    readPhrase (fuel + 1) (c :: cs) = readUnbracketed (readPhrase fuel) (c :: cs) := by
  rw [readPhrase]
  intro cs' hcs
  exact h (List.cons.inj hcs).1

theorem Operand.OneWord.reads {o : Operand} (h : o.OneWord) {fuel : Nat} :
    Reads (readPhrase (fuel + 1)) o := by
  intro rest hrest
  obtain ⟨c, cs, hc, -, hopen⟩ := h.plainWord.eq_cons
  have hread : readUnbracketed (readPhrase fuel) (o.searchText.toList ++ rest) = _ :=
    readUnbracketed_plain h.plainWord hrest
  rw [hc, List.cons_append] at hread ⊢
  rw [readPhrase_of_ne hopen, hread, ← hc, String.ofList_toList, h.readable_eq]

/-- A form is read if every operand is read that is shorter. -/
theorem SearchForm.reads {e : Expression} (h : SearchForm e) {fuel : Nat}
    (hreads : ∀ o : Operand, o.Searchable → o.searchText.toList.length < fuel →
      Reads (readPhrase fuel) o)
    (hfuel : e.searchText.toList.length ≤ fuel) : Reads (readPhrase (fuel + 1)) (.nested e) := by
  intro rest hrest
  have huid : uidField.toList.length < fuel → Reads (readPhrase fuel) (.field uidField) :=
    hreads _ (.leaf (.field (by decide) (by decide)))
  rw [Operand.searchText]
  cases h with
  | @openRange bound hbound =>
    rw [searchText_openRange] at hfuel ⊢
    simp only [List.length_cons, List.length_append, joined_singleton] at hfuel
    have hbound := List.forall_mem_singleton.mpr (hreads bound hbound (by omega))
    have hcount : 0 < fuel := by omega
    rw [List.cons_append, List.append_assoc, List.cons_append, List.append_assoc, readPhrase]
    exact readBracketed_range true (huid (by omega)) hbound (List.forall_mem_nil _) hcount
  | @range bound bounds hbounds =>
    rw [searchText_range] at hfuel ⊢
    simp only [List.length_cons, List.length_append] at hfuel
    have hbound : ∀ o ∈ bound :: bounds, Reads (readPhrase fuel) o := by
      intro o ho
      have hle := length_le_joined o ho
      exact hreads o (hbounds o ho) (by omega)
    have hstart := fun o ho => (hbounds o (List.mem_cons_of_mem _ ho)).start
    have hcount := length_bounds_le bound bounds
    rw [List.cons_append, List.append_assoc, List.cons_append, List.append_assoc, readPhrase,
      readable_isIn]
    exact readBracketed_range false (huid (by omega)) hbound hstart (by omega)
  | @flag name b hname =>
    rw [searchText_flag] at hfuel ⊢
    simp only [List.length_cons, List.length_append] at hfuel
    rw [List.cons_append, List.append_assoc, readPhrase]
    exact readBracketed_flag (hreads name hname (by omega))
  | @unary a ha =>
    obtain ⟨c, cs, hc, -, hopen⟩ := Operator.word_eq_cons .not
    rw [searchText_unary] at hfuel ⊢
    simp only [List.length_cons, List.length_append] at hfuel
    have hread := readUnbracketed_not (hreads a ha (by omega)) hrest
    rw [List.append_assoc, List.cons_append]
    rw [hc, List.cons_append] at hread ⊢
    rw [readPhrase_of_ne hopen, hread]
    rfl
  | @binary op a b hnot hshort ha hb =>
    obtain ⟨c, cs, hc, -, hopen⟩ := op.word_eq_cons
    rw [searchText_binary hshort] at hfuel ⊢
    simp only [List.length_cons, List.length_append] at hfuel
    have hread := readUnbracketed_binary hnot (hreads a ha (by omega)) (hreads b hb (by omega))
      hrest
    rw [List.append_assoc, List.cons_append, List.append_assoc, List.cons_append]
    rw [hc, List.cons_append] at hread ⊢
    rw [readPhrase_of_ne hopen, hread, readable_binary hshort]

/-- **An operand is read back from its text**, whatever follows it. -/
theorem readPhrase_searchText {fuel : Nat} {o : Operand} (h : o.Searchable)
    (hfuel : o.searchText.toList.length < fuel) : Reads (readPhrase fuel) o := by
  -- the operands of a form are shorter than the form
  induction fuel generalizing o with
  | zero => omega
  | succ fuel ih =>
    cases h with
    | leaf h => exact h.reads
    | nested he =>
      have hform := SearchForm.of_searchable he
      exact hform.reads (fun o ho hlt => ih ho hlt) (Nat.le_of_lt_succ hfuel)

/-- **Searchable expressions that have the same text are the same**, but for the kinds of their
leaves and the booleans of their flag tests. -/
theorem unpolarized_shown_eq_of_search {limit limit' : Nat} {e e' : Expression} {text : String}
    (he : e.Searchable) (he' : e'.Searchable) (h : e.search limit = .ok text)
    (h' : e'.search limit' = .ok text) : e.unpolarized.shown = e'.unpolarized.shown := by
  have htext : e.searchText = e'.searchText :=
    (Expression.search_eq_ok_iff.mp h).2.symm.trans (Expression.search_eq_ok_iff.mp h').2
  have hread := readPhrase_searchText (.nested he) (Nat.lt_succ_self _) [] endsPhrase_nil
  have hread' := readPhrase_searchText (.nested he') (Nat.lt_succ_self _) [] endsPhrase_nil
  rw [Operand.searchText] at hread hread'
  rw [htext, hread'] at hread
  have hreadable := (Prod.mk.inj (Option.some.inj hread)).1
  exact (Operand.nested.inj hreadable).symm

/-- A flag test of some polarity beside a range in which another range is nested. -/
def flagOrRange (polarity : Bool) (bound : Operand) : Expression :=
  .or (.nested (.eq (.field "Seen") (.value (.bool polarity))))
    (.nested (.isIn (.field uidField)
      [.value (.integer 3), .nested (.ge (.field uidField) bound)]))

theorem searchable_flagOrRange (polarity : Bool) {bound : Operand} (h : bound.Searchable) :
    (flagOrRange polarity bound).Searchable := by
  have hname : (Operand.field "Seen").Searchable := .leaf (.field (by decide) (by decide))
  have huid : (Operand.field uidField).Searchable := .leaf (.field (by decide) (by decide))
  have hrange : (Expression.ge (.field uidField) bound).Searchable := .ge huid h
  refine .or (.nested (.eq hname (.leaf (.bool polarity))))
    (.nested (.isIn rfl (List.cons_ne_nil _ _) ?_))
  exact List.forall_mem_cons.mpr
    ⟨.leaf (.integer 3), List.forall_mem_singleton.mpr (.nested hrange)⟩

/-- The polarity is not in the text, nor whether a bound is a boolean or a field of that name. -/
theorem unpolarized_shown_eq_of_search_flags :
    flagOrRange true (.value (.bool true)) ≠ flagOrRange false (.field "true") ∧
      (flagOrRange true (.value (.bool true))).search 3 =
        .ok "OR (Seen) (UID 3:(UID true:*))" ∧
      (flagOrRange false (.field "true")).search 9 = .ok "OR (Seen) (UID 3:(UID true:*))" ∧
      (flagOrRange true (.value (.bool true))).unpolarized.shown =
        (flagOrRange false (.field "true")).unpolarized.shown := by
  have hbool : (flagOrRange true (.value (.bool true))).Searchable :=
    searchable_flagOrRange true (.leaf (.bool true))
  have hfield : (flagOrRange false (.field "true")).Searchable :=
    searchable_flagOrRange false (.leaf (.field (by decide) (by decide)))
  have hsearch : (flagOrRange true (.value (.bool true))).search 3 =
    .ok "OR (Seen) (UID 3:(UID true:*))" := by rfl
  have hsearch' : (flagOrRange false (.field "true")).search 9 =
    .ok "OR (Seen) (UID 3:(UID true:*))" := by rfl
  refine ⟨fun h => ?_, hsearch, hsearch',
    unpolarized_shown_eq_of_search hbool hfield hsearch hsearch'⟩
  cases h

end MailFilter
