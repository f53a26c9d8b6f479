import MailFilter.Json.Lexeme
import MailFilter.Json.Printer

/-!
# A printed text is cut where it was put together

Cutting a text into lexemes needs no context, so what becomes of a printed value can be said for
each of its parts alone: a bracket, a separator or a word is the lexeme of that kind, **an integer
is one numeral, which denotes the integer** (`lexemes_number`), and **a string is one string
lexeme, which stands for the string** (`lexemes_quoted`). Each statement goes on with the text
behind the part.

A numeral ends where the text does not go on with it, so behind an integer there must be no digit,
point or exponent. Floats are not looked at: they are printed in other forms, and are not always
read as what was printed.
-/

namespace MailFilter.Json

/-! ## The lexeme at the front of a text -/

theorem lexemes_punctuation {c : Char} {kind : Lexeme.Kind} (rest : List Char)
    (h : punctuation? c = some kind) : lexemes (c :: rest) = ⟨kind, c :: rest⟩ :: lexemes rest := by
  have hblank : isBlank c = false := by
    cases hc : isBlank c with
    | false => rfl
    | true =>
      simp only [isBlank, Bool.or_eq_true, beq_iff_eq] at hc
      rcases hc with ((rfl | rfl) | rfl) | rfl <;> cases h
  rw [lexemes, if_neg (by rw [hblank]; exact Bool.false_ne_true), h]

theorem lexemes_word {c : Char} {letters : List Char} {value : Json} (rest : List Char)
    (h : word? c = some (letters, value)) (hspell : spell letters (letters ++ rest) = .ok rest) :
    lexemes (c :: (letters ++ rest)) =
      ⟨.word (.ok value), c :: (letters ++ rest)⟩ :: lexemes rest := by
  have hfirst : c = 'n' ∨ c = 't' ∨ c = 'f' := by
    unfold word? at h
    split at h
    · exact .inl ‹_›
    split at h
    · exact .inr (.inl ‹_›)
    split at h
    · exact .inr (.inr ‹_›)
    · cases h
  have hfront : isBlank c = false ∧ punctuation? c = none ∧ c ≠ '\"' := by
    rcases hfirst with rfl | rfl | rfl <;> decide
  obtain ⟨hblank, hpunctuation, hquote⟩ := hfront
  rw [lexemes, if_neg (by rw [hblank]; exact Bool.false_ne_true), hpunctuation]
  dsimp only
  rw [if_neg hquote, h]
  dsimp only
  split
  · rename_i after h'
    obtain rfl := Except.ok.inj (hspell.symm.trans h')
    rfl
  · rename_i fault h'
    cases hspell.symm.trans h'

theorem lexemes_string {text after : List Char} {parts : List Piece}
    (h : pieces text = (parts, .quote after)) :
    lexemes ('\"' :: text) =
      ⟨.string parts (.quote after), '\"' :: text⟩ :: lexemes after := by
  have hpunctuation : punctuation? '\"' = none := rfl
  rw [lexemes, if_neg (by decide), hpunctuation]
  dsimp only
  rw [if_pos rfl]
  split
  · rename_i parts' after' h'
    obtain ⟨rfl, hclose⟩ := Prod.mk.inj (h.symm.trans h')
    obtain rfl := Close.quote.inj hclose
    rfl
  · rename_i parts' close hquote h'
    obtain ⟨-, hclose⟩ := Prod.mk.inj (h.symm.trans h')
    exact absurd hclose.symm (hquote _)

/-- A minus or a digit starts a numeral and nothing else. -/
theorem lexemes_numeral {c : Char} {text after : List Char} {n : Numeral}
    (hc : c = '-' ∨ c.isDigit = true) (h : numeral (c :: text) = .ok (n, after)) :
    lexemes (c :: text) = ⟨.number (n.value after), c :: text⟩ :: lexemes after := by
  have hne : ∀ d : Char, d ≠ '-' → d.isDigit = false → c ≠ d := by
    intro d hminus hdigit hcd
    subst hcd
    rcases hc with rfl | hc
    · exact hminus rfl
    · rw [hdigit] at hc
      cases hc
  have hblank : isBlank c = false := by
    simp [isBlank, hne ' ', hne '\t', hne '\n', hne '\r']
  have hpunctuation : punctuation? c = none := by
    simp [punctuation?, hne '[', hne ']', hne '\x7b', hne '\x7d', hne ',', hne ':']
  have hword : word? c = none := by
    simp [word?, hne 'n', hne 't', hne 'f']
  rw [lexemes, if_neg (by rw [hblank]; exact Bool.false_ne_true), hpunctuation]
  dsimp only
  rw [if_neg (hne '\"' (by decide) (by decide)), hword]
  dsimp only
  rw [if_pos hc]
  split
  · rename_i n' after' h'
    obtain ⟨rfl, rfl⟩ := Prod.mk.inj (Except.ok.inj (h.symm.trans h'))
    rfl
  · rename_i fault h'
    cases h.symm.trans h'

/-! ## Decimal digits -/

theorem ofDigits_toDigits (n : Nat) : Decimal.ofDigits (Nat.toDigits 10 n) = n := by
  have hfold : Decimal.ofDigits (Nat.toDigits 10 n) =
      Nat.ofDigitChars 10 (Nat.toDigits 10 n) 0 := Nat.ofDigitChars_eq_foldl.symm
  rw [hfold, Nat.ofDigitChars_ten_toDigits]

theorem toDigits_eq_cons (n : Nat) : ∃ c tail, Nat.toDigits 10 n = c :: tail ∧
    c.isDigit = true ∧ ∀ d ∈ tail, d.isDigit = true := by
  cases hdigits : Nat.toDigits 10 n with
  | nil => exact absurd hdigits Nat.toDigits_ne_nil
  | cons c tail =>
    have hall : ∀ d ∈ c :: tail, d.isDigit = true := fun d hd =>
      Nat.isDigit_of_mem_toDigits (by decide) (by decide) (hdigits ▸ hd)
    exact ⟨c, tail, rfl, List.forall_mem_cons.mp hall⟩

/-- Only the digits of zero start with a zero. -/
theorem head_toDigits_ne_zero {n : Nat} (hn : n ≠ 0) : (Nat.toDigits 10 n).head? ≠ some '0' := by
  induction n using Nat.strongRecOn with
  | ind n ih =>
    rcases Nat.lt_or_ge n 10 with hlt | hge
    · rw [Nat.toDigits_of_lt_base hlt, List.head?_cons, ne_eq, Option.some.injEq,
        Nat.digitChar_eq_zero]
      exact hn
    · -- the last digit is behind those of a smaller number, which is not zero either
      have hsmaller := ih (n / 10) (by omega) (by omega)
      obtain ⟨c, rest, hdigits, -⟩ := toDigits_eq_cons (n / 10)
      rw [hdigits] at hsmaller
      rw [Nat.toDigits_of_base_le (by decide) hge, hdigits]
      exact hsmaller

/-! ## Digits are one numeral -/

/-- What follows a numeral does not go on with it. -/
def EndsNumeral (rest : List Char) : Prop :=
  ∀ c ∈ rest.head?, c.isDigit = false ∧ c ≠ '.' ∧ c ≠ 'e' ∧ c ≠ 'E'

theorem endsNumeral_nil : EndsNumeral [] := by
  intro c hc
  cases hc

theorem endsNumeral_cons {c : Char} (rest : List Char)
    (h : c.isDigit = false ∧ c ≠ '.' ∧ c ≠ 'e' ∧ c ≠ 'E') : EndsNumeral (c :: rest) := by
  intro d hd
  cases hd
  exact h

section

variable {digits rest : List Char}

theorem digitsOf_append (hdigits : ∀ c ∈ digits, c.isDigit = true) (hrest : EndsNumeral rest) :
    digitsOf (digits ++ rest) = digits ∧ afterDigits (digits ++ rest) = rest := by
  have hstop : digitsOf rest = [] ∧ afterDigits rest = rest := by
    cases rest with
    | nil => exact ⟨rfl, rfl⟩
    | cons c tail =>
      have hc : ¬ c.isDigit = true := by
        rw [(hrest c rfl).1]
        exact Bool.false_ne_true
      exact ⟨List.takeWhile_cons_of_neg hc, List.dropWhile_cons_of_neg hc⟩
  refine ⟨?_, ?_⟩
  · rw [digitsOf, List.takeWhile_append_of_pos hdigits]
    exact (congrArg (digits ++ ·) hstop.1).trans (List.append_nil digits)
  · rw [afterDigits, List.dropWhile_append_of_pos hdigits]
    exact hstop.2

theorem fractionPart_of_endsNumeral (hrest : EndsNumeral rest) :
    fractionPart rest = .ok (none, rest) := by
  unfold fractionPart
  split
  · exact absurd rfl (hrest '.' rfl).2.1
  · exact absurd rfl (hrest '.' rfl).2.1
  · rfl

theorem exponentPart_of_endsNumeral (hrest : EndsNumeral rest) :
    exponentPart rest = .ok (none, rest) := by
  cases rest with
  | nil => rfl
  | cons c tail =>
    obtain ⟨-, -, he, hE⟩ := hrest c rfl
    unfold exponentPart
    exact if_neg (not_or.mpr ⟨he, hE⟩)

/-- A zero has to stand alone, and the digits of a number start with one only if they are one. -/
theorem wholePart_toDigits (n : Nat) (hrest : EndsNumeral rest) :
    wholePart (Nat.toDigits 10 n ++ rest) = .ok (Nat.toDigits 10 n, rest) := by
  rcases Nat.eq_zero_or_pos n with rfl | hpos
  · have hnone := (digitsOf_append (List.forall_mem_nil _) hrest).1
    rw [List.nil_append] at hnone
    rw [Nat.toDigits_zero, List.singleton_append, wholePart, if_pos rfl, hnone]
    rfl
  · have hhead := head_toDigits_ne_zero (Nat.ne_of_gt hpos)
    obtain ⟨c, tail, hdigits, hc, htail⟩ := toDigits_eq_cons n
    obtain ⟨htake, hdrop⟩ := digitsOf_append htail hrest
    rw [hdigits] at hhead
    rw [hdigits, List.cons_append, wholePart, if_neg (fun h => hhead (congrArg some h)), if_pos hc,
      htake, hdrop]

theorem unsignedNumeral_toDigits (negative : Bool) (n : Nat) (hrest : EndsNumeral rest) :
    unsignedNumeral negative (Nat.toDigits 10 n ++ rest) =
      .ok (⟨negative, Nat.toDigits 10 n, none, none⟩, rest) := by
  simp only [unsignedNumeral, wholePart_toDigits n hrest, fractionPart_of_endsNumeral hrest,
    exponentPart_of_endsNumeral hrest, bind, Except.bind, pure, Except.pure]

theorem value_natural {n : Nat} (after : List Char) (h : n < Decimal.unsignedEnd) :
    (Numeral.mk false (Nat.toDigits 10 n) none none).value after =
      .ok (Number.ofUInt64 n.toUInt64) := by
  rw [Numeral.value]
  simp [ofDigits_toDigits, h]

theorem value_negative {n : Nat} (after : List Char) (hpos : 0 < n) (h : n ≤ Decimal.signedEnd) :
    (Numeral.mk true (Nat.toDigits 10 n) none none).value after =
      .ok (.integer (Int64.ofInt (-n))) := by
  rw [Numeral.value]
  simp [ofDigits_toDigits, h, hpos]

theorem lexemes_natural {n : Nat} (h : n < Decimal.unsignedEnd) (hrest : EndsNumeral rest) :
    lexemes (Nat.toDigits 10 n ++ rest) =
      ⟨.number (.ok (Number.ofUInt64 n.toUInt64)), Nat.toDigits 10 n ++ rest⟩ :: lexemes rest := by
  have hnumeral := unsignedNumeral_toDigits false n hrest
  obtain ⟨c, tail, hdigits, hc, -⟩ := toDigits_eq_cons n
  rw [← value_natural rest h]
  rw [hdigits] at hnumeral ⊢
  refine lexemes_numeral (.inr hc) ?_
  unfold numeral
  split
  · -- a minus is no digit
    rename_i cs hcs
    obtain ⟨rfl, -⟩ := List.cons.inj hcs
    cases hc
  · exact hnumeral

theorem lexemes_negative {n : Nat} (hpos : 0 < n) (h : n ≤ Decimal.signedEnd)
    (hrest : EndsNumeral rest) :
    lexemes ('-' :: (Nat.toDigits 10 n ++ rest)) =
      ⟨.number (.ok (.integer (Int64.ofInt (-n)))), '-' :: (Nat.toDigits 10 n ++ rest)⟩ ::
        lexemes rest := by
  rw [← value_negative rest hpos h]
  exact lexemes_numeral (.inl rfl) (unsignedNumeral_toDigits true n hrest)

/-! ## The numeral of an integer denotes the integer -/

theorem ofUInt64_of_nonneg {i : Int64} (h : 0 ≤ i.toInt) :
    Number.ofUInt64 i.toInt.toNat.toUInt64 = .integer i ∧ i.toInt.toNat < Decimal.signedEnd := by
  have hlt : i.toInt.toNat < Decimal.signedEnd := by
    have := i.toInt_lt
    simp only [Decimal.signedEnd]
    omega
  have hnat : i.toInt.toNat.toUInt64.toNat = i.toInt.toNat := by
    refine UInt64.toNat_ofNat_of_lt' ?_
    simp only [Decimal.signedEnd] at hlt
    simp only [UInt64.size]
    omega
  refine ⟨?_, hlt⟩
  rw [Number.ofUInt64, dif_neg (by rw [hnat]; omega), Number.integer.injEq]
  refine Int64.toInt_inj.mp ?_
  rw [toInt_toInt64 (by rw [hnat]; exact hlt), hnat]
  omega

/-- **An integer is read back from its text.** -/
theorem lexemes_number {n : Number} (hinteger : ∀ x finite, n ≠ .float x finite)
    (hrest : EndsNumeral rest) :
    lexemes (n.compact.toList ++ rest) =
      ⟨.number (.ok n), n.compact.toList ++ rest⟩ :: lexemes rest := by
  cases n with
  | float x finite => exact absurd rfl (hinteger x finite)
  | unsigned u above =>
    have htext : (Number.unsigned u above).compact.toList = Nat.toDigits 10 u.toNat := by
      rw [Number.compact, Nat.toString_eq_ofList_toDigits, String.toList_ofList]
    have hnumber : Number.ofUInt64 u.toNat.toUInt64 = .unsigned u above := by
      rw [show u.toNat.toUInt64 = u from UInt64.ofNat_toNat, Number.ofUInt64, dif_pos above]
    rw [htext, lexemes_natural u.toNat_lt hrest, hnumber]
  | integer i =>
    rw [Number.compact, Int.toString_eq_repr, Int.repr_eq_if]
    by_cases hneg : i.toInt < 0
    · -- the magnitude of the least integer is above all positive ones
      have hmin : (-i.toInt).toNat ≤ Decimal.signedEnd := by
        have := i.le_toInt
        simp only [Decimal.signedEnd]
        omega
      have htext : ("-" ++ (-i.toInt).toNat.repr).toList =
          '-' :: Nat.toDigits 10 (-i.toInt).toNat := by
        rw [String.toList_append, Nat.toList_repr]
        rfl
      have hnumber : Int64.ofInt (-((-i.toInt).toNat : Int)) = i := by
        rw [Int.toNat_of_nonneg (by omega), Int.neg_neg, Int64.ofInt_toInt]
      rw [if_neg (Int.not_le.mpr hneg), htext, List.cons_append,
        lexemes_negative (by omega) hmin hrest, hnumber]
    · have hnonneg : 0 ≤ i.toInt := Int.not_lt.mp hneg
      obtain ⟨hnumber, hlt⟩ := ofUInt64_of_nonneg hnonneg
      have hfits : i.toInt.toNat < Decimal.unsignedEnd := Nat.lt_trans hlt (by decide)
      rw [if_pos hnonneg, Nat.toList_repr, lexemes_natural hfits hrest, hnumber]

end

/-! ## A string is one string lexeme -/

section

variable {tail : List Char} {parts : List Piece} {close : Close}

theorem pieces_letter {letter c : Char} (hu : letter ≠ 'u') (h : escapedBy? letter = some c)
    (htail : pieces tail = (parts, close)) :
    pieces ('\\' :: letter :: tail) = (.escaped c :: parts, close) := by
  rw [pieces, h, htail]
  all_goals (intros; simp_all)

theorem pieces_unit {a b c d : Char} {value : Nat} (h : unitOf? a b c d = some value)
    (htail : pieces tail = (parts, close)) :
    pieces ('\\' :: 'u' :: a :: b :: c :: d :: tail) = (.unit value tail :: parts, close) := by
  rw [pieces, h, htail]

theorem pieces_plain {c : Char} (hquote : c ≠ '\"') (hslash : c ≠ '\\') (hc : ¬ c < ' ')
    (htail : pieces tail = (parts, close)) : pieces (c :: tail) = (.plain c :: parts, close) := by
  rw [pieces, if_neg hc, htail]
  all_goals (intros; simp_all)

/-- A character is printed with a letter for it, as a unit, or as itself. -/
theorem escape_cases (c : Char) :
    (∃ letter, escape c = ['\\', letter] ∧ letter ≠ 'u' ∧ escapedBy? letter = some c) ∨
      (c.toNat < 32 ∧
        escape c = ['\\', 'u', '0', '0', hexDigit (c.toNat / 16), hexDigit (c.toNat % 16)]) ∨
      (escape c = [c] ∧ c ≠ '\"' ∧ c ≠ '\\' ∧ ¬ c < ' ') := by
  unfold escape
  split
  · subst c; exact .inl ⟨_, rfl, by decide, rfl⟩
  split
  · subst c; exact .inl ⟨_, rfl, by decide, rfl⟩
  split
  · subst c; exact .inl ⟨_, rfl, by decide, rfl⟩
  split
  · subst c; exact .inl ⟨_, rfl, by decide, rfl⟩
  split
  · subst c; exact .inl ⟨_, rfl, by decide, rfl⟩
  split
  · subst c; exact .inl ⟨_, rfl, by decide, rfl⟩
  split
  · subst c; exact .inl ⟨_, rfl, by decide, rfl⟩
  split
  · rename_i hc
    exact .inr (.inl ⟨hc, rfl⟩)
  · rename_i hquote hslash _ _ _ _ _ hc
    exact .inr (.inr ⟨rfl, hquote, hslash, hc⟩)

theorem unitOf?_hexDigit :
    ∀ n < 32, unitOf? '0' '0' (hexDigit (n / 16)) (hexDigit (n % 16)) = some n := by
  decide

/-- What a character is printed as is one part of a string and stands for the character. -/
theorem pieces_escape {c : Char} {cs : List Char} (htail : pieces tail = (parts, close))
    (hparts : joinPieces close parts = .ok cs) :
    ∃ parts', pieces (escape c ++ tail) = (parts', close) ∧
      joinPieces close parts' = .ok (c :: cs) := by
  rcases escape_cases c with
    ⟨letter, hescape, hu, hletter⟩ | ⟨hc, hescape⟩ | ⟨hescape, hquote, hslash, hc⟩
  · refine ⟨_, by rw [hescape]; exact pieces_letter hu hletter htail, ?_⟩
    rw [joinPieces, hparts]
    rfl
  · refine ⟨_, by rw [hescape]; exact pieces_unit (unitOf?_hexDigit _ hc) htail, ?_⟩
    -- the units of the control characters are no halves of surrogate pairs
    have htrailing : isTrailing c.toNat = false := by
      rw [isTrailing, decide_eq_false (by omega), Bool.false_and]
    have hleading : isLeading c.toNat = false := by
      rw [isLeading, decide_eq_false (by omega), Bool.false_and]
    rw [joinPieces.eq_def]
    simp only [htrailing, hleading, Bool.false_eq_true, if_false, hparts, Char.ofNat_toNat]
    rfl
  · refine ⟨_, by rw [hescape]; exact pieces_plain hquote hslash hc htail, ?_⟩
    rw [joinPieces, hparts]
    rfl

theorem pieces_flatMap_escape (cs rest : List Char) :
    ∃ parts, pieces (cs.flatMap escape ++ '\"' :: rest) = (parts, .quote rest) ∧
      joinPieces (.quote rest) parts = .ok cs := by
  induction cs with
  | nil => exact ⟨[], rfl, rfl⟩
  | cons c cs ih =>
    obtain ⟨parts, hparts, hjoin⟩ := ih
    rw [List.flatMap_cons, List.append_assoc]
    exact pieces_escape hparts hjoin

end

/-- **A string is read back from its text**, whatever its characters are. -/
theorem lexemes_quoted (s : String) (rest : List Char) :
    ∃ parts close, lexemes ((quoted s).toList ++ rest) =
        ⟨.string parts close, (quoted s).toList ++ rest⟩ :: lexemes rest ∧
      stringOf parts close = .ok s := by
  have htext : (quoted s).toList ++ rest =
      '\"' :: (s.toList.flatMap escape ++ '\"' :: rest) := by
    rw [quoted, String.toList_ofList, List.append_assoc]
    rfl
  obtain ⟨parts, hparts, hjoin⟩ := pieces_flatMap_escape s.toList rest
  refine ⟨parts, .quote rest, by rw [htext, lexemes_string hparts], ?_⟩
  rw [stringOf, hjoin]
  exact congrArg Except.ok String.ofList_toList

end MailFilter.Json
