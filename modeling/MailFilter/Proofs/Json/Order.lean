import MailFilter.Json.Reader
import MailFilter.Proofs.Trail

/-!
# What is read from a text is in order

A value is **in order** if the members of each object in it stand in strictly ascending order of
their keys, so that no key is there twice. The type of JSON values does not ask for that, but
nothing else is ever read from a text (`ordered_read`): the reader puts each member in its place
when its value is complete, and what is open around it stays in order at every step.
-/

namespace MailFilter.Json

/-- In each object of a value the keys of the members are strictly ascending. -/
inductive Ordered : Json → Prop
  | literal {j : Json} {s : Scalar} : Scalar.ofJson j = .ok s → Ordered j
  | array {items : List Json} : (∀ x ∈ items, Ordered x) → Ordered (.array items)
  | object {members : List (String × Json)} :
      Ascending members → (∀ m ∈ members, Ordered m.2) → Ordered (.object members)

theorem Ordered.ascending {members : List (String × Json)} (h : (Json.object members).Ordered) :
    Ascending members := by
  cases h with
  | literal hs => cases hs
  | object hascending _ => exact hascending

theorem Ordered.values {members : List (String × Json)} (h : (Json.object members).Ordered) :
    ∀ m ∈ members, m.2.Ordered := by
  cases h with
  | literal hs => cases hs
  | object _ hvalues => exact hvalues

theorem Ordered.items {items : List Json} (h : (Json.array items).Ordered) :
    ∀ x ∈ items, x.Ordered := by
  cases h with
  | literal hs => cases hs
  | array hitems => exact hitems

theorem Ordered.single (key : String) {value : Json} (h : value.Ordered) :
    (Json.single key value).Ordered :=
  .object (List.pairwise_singleton _ _) (List.forall_mem_singleton.mpr h)

/-- What stands within a value that is in order is in order. -/
theorem Ordered.of_inside {j v : Json} (h : j.Ordered) (hinside : j.Inside v) : v.Ordered := by
  obtain ⟨vs, ht, hv⟩ := hinside
  induction ht with
  | here j =>
    rw [List.mem_singleton.mp hv]
    exact h
  | item hx ht ih =>
    rcases List.mem_cons.mp hv with rfl | hv
    · exact h
    · exact ih (h.items _ hx) hv
  | member hm ht ih =>
    rcases List.mem_cons.mp hv with rfl | hv
    · exact h
    · exact ih (h.values _ hm) hv

theorem mem_insert {key : String} {value : Json} {members : List (String × Json)}
    {m : String × Json} (h : m ∈ insert key value members) : m = (key, value) ∨ m ∈ members := by
  induction members with
  | nil => exact .inl (List.mem_singleton.mp h)
  | cons m' rest ih =>
    unfold insert at h
    split at h
    · exact List.mem_cons.mp h
    split at h
    · rcases List.mem_cons.mp h with rfl | h
      · exact .inl rfl
      · exact .inr (List.mem_cons_of_mem _ h)
    · rcases List.mem_cons.mp h with rfl | h
      · exact .inr List.mem_cons_self
      · exact (ih h).imp_right (List.mem_cons_of_mem _)

theorem Ordered.insert {key : String} {value : Json} {members : List (String × Json)}
    (h : (Json.object members).Ordered) (hvalue : value.Ordered) :
    (Json.object (Json.insert key value members)).Ordered := by
  refine .object (ascending_insert h.ascending) fun m hm => ?_
  rcases mem_insert hm with rfl | hm
  · exact hvalue
  · exact h.values m hm

/-! ## The words of a text -/

/-- If a lexeme is a word, its value is in order. -/
def Lexeme.WordOrdered (l : Lexeme) : Prop :=
  ∀ v, l.kind = .word (.ok v) → v.Ordered

theorem ordered_word {c : Char} {letters : List Char} {v : Json}
    (h : word? c = some (letters, v)) : v.Ordered := by
  unfold word? at h
  split at h
  · cases h
    exact .literal (s := .null) rfl
  split at h
  · cases h
    exact .literal (s := .bool true) rfl
  split at h
  · cases h
    exact .literal (s := .bool false) rfl
  · cases h

theorem not_word_of_punctuation {c : Char} {kind : Lexeme.Kind} (h : punctuation? c = some kind)
    (value : Except Fault Json) : kind ≠ .word value := by
  rintro rfl
  unfold punctuation? at h
  repeat' split at h
  all_goals cases h

theorem wordOrdered_lexemes (cs : List Char) : ∀ l ∈ lexemes cs, l.WordOrdered := by
  fun_induction lexemes cs with
  | case1 => exact fun _ h => nomatch h
  | case2 c rest hblank ih => exact ih
  | case3 c rest hblank kind hkind ih =>
    refine List.forall_mem_cons.mpr ⟨fun v hv => ?_, ih⟩
    exact absurd hv (not_word_of_punctuation hkind _)
  | case4 rest parts after hpieces hblank hkind ih =>
    exact List.forall_mem_cons.mpr ⟨fun v hv => (nomatch hv), ih⟩
  | case5 => exact List.forall_mem_singleton.mpr fun v hv => nomatch hv
  | case6 c rest hblank hkind hquote letters value hword after hspell ih =>
    refine List.forall_mem_cons.mpr ⟨fun v hv => ?_, ih⟩
    obtain rfl := Except.ok.inj (Lexeme.Kind.word.inj hv)
    exact ordered_word hword
  | case7 => exact List.forall_mem_singleton.mpr fun v hv => nomatch hv
  | case8 c rest hblank hkind hquote hword hdigit n after hnumeral ih =>
    exact List.forall_mem_cons.mpr ⟨fun v hv => (nomatch hv), ih⟩
  | case9 => exact List.forall_mem_singleton.mpr fun v hv => nomatch hv
  | case10 => exact List.forall_mem_singleton.mpr fun v hv => nomatch hv

/-! ## The machine keeps what it has read in order -/

/-- What has been read of an open container is in order. -/
def Frame.Ordered : Frame → Prop
  | .item items => ∀ x ∈ items, x.Ordered
  | .member members _ => (Json.object members).Ordered

/-- What has been read is in order, of the value that is due and of all that is open around it. -/
def State.Ordered : State → Prop
  | .value outer | .firstItem outer | .firstKey outer => ∀ f ∈ outer, f.Ordered
  | .nextItem items outer | .afterItem items outer =>
    (∀ x ∈ items, x.Ordered) ∧ ∀ f ∈ outer, f.Ordered
  | .nextKey members outer | .colon members _ outer | .afterMember members outer =>
    (Json.object members).Ordered ∧ ∀ f ∈ outer, f.Ordered
  | .complete v => v.Ordered

theorem ordered_noMembers : (Json.object []).Ordered :=
  .object List.Pairwise.nil fun _ h => nomatch h

theorem ordered_supply {v : Json} {outer : List Frame} (hv : v.Ordered)
    (houter : ∀ f ∈ outer, f.Ordered) : (supply v outer).Ordered := by
  cases outer with
  | nil => exact hv
  | cons f outer =>
    obtain ⟨hf, hbelow⟩ := List.forall_mem_cons.mp houter
    cases f with
    | item items => exact ⟨List.forall_mem_cons.mpr ⟨hv, hf⟩, hbelow⟩
    | member members key => exact ⟨Ordered.insert hf hv, hbelow⟩

/-- What stands for a lexeme is supplied, if the lexeme is not malformed. -/
theorem ordered_map_supply {α : Type} {x : Except Fault α} {value : α → Json} {outer : List Frame}
    {s : State} (houter : ∀ f ∈ outer, f.Ordered) (hvalue : ∀ a, x = .ok a → (value a).Ordered)
    (h : (x.map fun a => supply (value a) outer) = .ok s) : s.Ordered := by
  cases x with
  | error fault => cases h
  | ok a =>
    obtain rfl := Except.ok.inj h
    exact ordered_supply (hvalue a rfl) houter

theorem ordered_openInside {l : Lexeme} {outer : List Frame} {inside s : State}
    (hinside : inside.Ordered) (h : openInside l outer inside = .ok s) : s.Ordered := by
  unfold openInside at h
  split at h
  · obtain rfl := Except.ok.inj h
    exact hinside
  · cases h

theorem ordered_beginValue {l : Lexeme} {outer : List Frame} {s : State} (hl : l.WordOrdered)
    (houter : ∀ f ∈ outer, f.Ordered) (h : beginValue l outer = .ok s) : s.Ordered := by
  unfold beginValue at h
  split at h
  · have hinside : (State.firstItem outer).Ordered := houter
    exact ordered_openInside hinside h
  · have hinside : (State.firstKey outer).Ordered := houter
    exact ordered_openInside hinside h
  · rename_i value hkind
    exact ordered_map_supply houter (fun v hv => hl v (hv ▸ hkind)) h
  · exact ordered_map_supply houter (fun n _ => .literal (s := .ofNumber n) rfl) h
  · exact ordered_map_supply houter (fun t _ => .literal (s := .string t) rfl) h
  · cases h

theorem ordered_colon {parts : List Piece} {close : Close} {members : List (String × Json)}
    {outer : List Frame} {s : State} (hmembers : (Json.object members).Ordered)
    (houter : ∀ f ∈ outer, f.Ordered)
    (h : (stringOf parts close).map (State.colon members · outer) = .ok s) : s.Ordered := by
  cases hkey : stringOf parts close with
  | error fault =>
    rw [hkey] at h
    cases h
  | ok key =>
    rw [hkey] at h
    obtain rfl := Except.ok.inj h
    exact ⟨hmembers, houter⟩

/-- **A step keeps what has been read in order.** -/
theorem ordered_take {l : Lexeme} {s s' : State} (hl : l.WordOrdered) (hs : s.Ordered)
    (h : s.take l = .ok s') : s'.Ordered := by
  cases s with
  | value outer => exact ordered_beginValue hl hs h
  | firstItem outer =>
    rw [State.take] at h
    split at h
    · obtain rfl := Except.ok.inj h
      exact ordered_supply (.array fun _ h => nomatch h) hs
    · have hframe : (Frame.item []).Ordered := fun _ h => nomatch h
      exact ordered_beginValue hl (List.forall_mem_cons.mpr ⟨hframe, hs⟩) h
  | nextItem items outer =>
    have houter : ∀ f ∈ Frame.item items :: outer, f.Ordered := List.forall_mem_cons.mpr hs
    rw [State.take] at h
    split at h
    · cases h
    · exact ordered_beginValue hl houter h
  | afterItem items outer =>
    obtain ⟨hitems, houter⟩ := hs
    rw [State.take] at h
    split at h
    · obtain rfl := Except.ok.inj h
      exact ⟨hitems, houter⟩
    · obtain rfl := Except.ok.inj h
      exact ordered_supply (.array fun x hx => hitems x (List.mem_reverse.mp hx)) houter
    · cases h
  | firstKey outer =>
    rw [State.take] at h
    split at h
    · obtain rfl := Except.ok.inj h
      exact ordered_supply ordered_noMembers hs
    · exact ordered_colon ordered_noMembers hs h
    · cases h
  | nextKey members outer =>
    rw [State.take] at h
    split at h
    · cases h
    · exact ordered_colon hs.1 hs.2 h
    · cases h
  | colon members key outer =>
    rw [State.take] at h
    split at h
    · obtain rfl := Except.ok.inj h
      exact List.forall_mem_cons.mpr hs
    · cases h
  | afterMember members outer =>
    obtain ⟨hmembers, houter⟩ := hs
    rw [State.take] at h
    split at h
    · obtain rfl := Except.ok.inj h
      exact ⟨hmembers, houter⟩
    · obtain rfl := Except.ok.inj h
      exact ordered_supply hmembers houter
    · cases h
  | complete v => cases h

theorem ordered_takeAll {ls : List Lexeme} {s s' : State} (hls : ∀ l ∈ ls, l.WordOrdered)
    (hs : s.Ordered) (h : State.takeAll ls s = .ok s') : s'.Ordered := by
  induction ls generalizing s with
  | nil =>
    obtain rfl := Except.ok.inj h
    exact hs
  | cons l ls ih =>
    obtain ⟨hl, hrest⟩ := List.forall_mem_cons.mp hls
    rw [State.takeAll] at h
    cases htake : s.take l with
    | error fault =>
      rw [htake] at h
      cases h
    | ok next =>
      rw [htake] at h
      exact ih hrest (ordered_take hl hs htake) h

/-- **Whatever is read from a text is in order.** -/
theorem ordered_read {text : String} {j : Json} (h : read text = .ok j) : j.Ordered := by
  rw [read] at h
  cases htake : State.takeAll (lexemes text.toList) (.value []) with
  | error fault =>
    rw [htake] at h
    cases h
  | ok s =>
    rw [htake] at h
    have hstart : (State.value []).Ordered := fun _ h => nomatch h
    have hs := ordered_takeAll (wordOrdered_lexemes _) hstart htake
    cases s with
    | complete v =>
      obtain rfl := Except.ok.inj h
      exact hs
    | _ => cases h

end MailFilter.Json
