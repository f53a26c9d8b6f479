import MailFilter.Proofs.Settings.Library

/-!
# What a layer changes

The library of settings files in TOML keeps what a library promises (`toml_lawful`). It sets a key
by following the path that the key stands for, and puts the value at the end of it. Two facts say
what this does, as far as paths of keys can see it:

* a value that is no table is **found again** at the end of its path, whatever stood there
  (`find?_placed_self`);
* at the end of a path that **parts** from it at a key, everything is as it was
  (`find?_placed_of_parts`).

Between the two lie the paths that lead to a start of the path, or on from its end, and those that
enter a list where it enters a table. Of these nothing is said, because a value there takes the
place of what the path leads through.
-/

namespace MailFilter

open Toml (Value)

namespace Layer

/-- A key stands for a path that starts with a key. -/
theorem path_eq_cons (key : String) : ∃ name steps, path key = .key name :: steps := by
  unfold path
  cases hpath : path? key.toList with
  | none => exact ⟨_, [], rfl⟩
  | some steps =>
    unfold path? at hpath
    split at hpath
    · cases hpath
    · obtain ⟨step, hstep, hpath⟩ := Option.bind_eq_some_iff.mp hpath
      obtain ⟨others, -, hpath⟩ := Option.bind_eq_some_iff.mp hpath
      obtain rfl := Option.some.inj hpath
      unfold Step.ofName? at hstep
      split at hstep
      · cases hstep
      · exact ⟨_, others, by rw [← Option.some.inj hstep]; rfl⟩

/-! ## One value at the end of its path -/

theorem laidOver_of_not_table {v : Value} (h : ∀ entries, v ≠ .table entries)
    (below : Option Value) : laidOver below v = v := by
  cases v with
  | table entries => exact absurd rfl (h entries)
  | _ => rw [laidOver]

/-- A path that starts with a key goes on from what stands under the key. -/
theorem placed_cons (v : Value) (name : String) (steps : List Step) (entries : Entries) :
    placed v (.key name :: steps) entries =
      put name (if steps.isEmpty then laidOver (get? name entries) v
        else place v steps (get? name entries)) entries := by
  rw [placed, place]
  rfl

/-- A table or none makes no difference to a value that is put under a key of it. -/
theorem entriesOf_place_key (v : Value) (name : String) (steps : List Step)
    (below : Option Value) :
    entriesOf (some (place v (.key name :: steps) below)) =
      placed v (.key name :: steps) (entriesOf below) := by
  rw [placed_cons, place]
  rfl

/-- **A value that is no table is found at the end of its path**, whatever stood there. -/
theorem find?_placed_self {v : Value} (hv : ∀ entries, v ≠ .table entries) (key : String)
    (keys : List String) (entries : Entries) :
    find? (key :: keys) (placed v ((key :: keys).map Step.key) entries) = some v := by
  induction keys generalizing key entries with
  | nil =>
    show get? key (placed v [.key key] entries) = some v
    rw [placed_cons, get?_put_self, if_pos List.isEmpty_nil, laidOver_of_not_table hv]
  | cons next keys ih =>
    rw [List.map_cons, placed_cons, find?_cons_cons, get?_put_self, if_neg (by simp),
      List.map_cons, entriesOf_place_key]
    exact ih next _

/-- **What is at the end of a path stays as it was** when a value is put at the end of one that
parts from it. -/
theorem find?_placed_of_parts (v : Value) {keys : List String} {steps : List Step}
    (h : Parts keys steps) (entries : Entries) :
    find? keys (placed v steps entries) = find? keys entries := by
  induction keys generalizing steps entries with
  | nil => cases h
  | cons key keys ih =>
    match steps, h with
    | .key name :: steps, h =>
      rw [placed_cons]
      by_cases hname : name = key
      · subst hname
        -- both paths go on from the key that they share, and part further on
        have hrest : Parts keys steps := h.resolve_left fun hne => hne rfl
        match keys, steps, hrest with
        | next :: keys, .key other :: steps, hrest =>
          rw [find?_cons_cons, find?_cons_cons, get?_put_self, if_neg (by simp),
            entriesOf_place_key]
          exact ih hrest _
      · exact find?_cons_congr (get?_put_of_ne (Ne.symm hname) _ _) keys

/-- Under the key that a path goes on from with another key there is a table afterwards. -/
theorem get?_placed_of_key_key (v : Value) (key next : String) (steps : List Step)
    (entries : Entries) :
    ∃ inner,
      get? key (placed v (.key key :: .key next :: steps) entries) = some (.table inner) := by
  rw [placed_cons, get?_put_self, if_neg (by simp), place]
  exact ⟨_, rfl⟩

end Layer

/-! ## The laws of a library -/

/-- The text of a variable stands for no table. -/
theorem Environment.value_ne_table (text : String) (entries : Layer.Entries) :
    value text ≠ .table entries := by
  unfold value
  dsimp only
  split
  · simp
  split
  · simp
  cases Decimal.integer? text.toList with
  | some i => simp
  | none => cases Decimal.float? text.toList <;> simp

namespace Settings

theorem textAt?_congr {path : String} {files files' : Files} (hpath : files' path = files path)
    (hbeside : files path = .directory →
      ∀ p ∈ (Files.extended? path fileExtension).toList, files' p = files p) :
    textAt? path files' = textAt? path files := by
  unfold textAt?
  rw [hpath]
  cases hfound : files path with
  | nothing => rfl
  | text s => rfl
  | unreadable => rfl
  | directory =>
    show (Files.extended? path fileExtension).bind (fun p => (files' p).text?) =
      (Files.extended? path fileExtension).bind fun p => (files p).text?
    cases hextended : Files.extended? path fileExtension with
    | none => rfl
    | some p => exact congrArg Found.text? (hbeside hfound p (by rw [hextended]; simp))

theorem Library.toml_assigned? (word : String) (v : String × String) :
    Library.toml.assigned? word v =
      (Environment.key? word v.1).map fun key => (key, Environment.value v.2) := by
  unfold toml
  rfl

/-- **The library of settings files in TOML keeps the laws of a library.** -/
theorem Library.toml_lawful : Library.toml.Lawful where
  path_key := by
    intro s
    cases s <;> decide +kernel
  exists_path_eq := Layer.path_eq_cons
  find?_set := by
    intro key name names v below hpath hv
    show Layer.find? _ (Layer.placed v (Layer.path key) below) = _
    replace hpath : Layer.path key = (name :: names).map Layer.Step.key := hpath
    rw [hpath]
    exact Layer.find?_placed_self hv name names below
  find?_set_of_parts := fun v below h => Layer.find?_placed_of_parts v h below
  get?_set := by
    intro key name next steps v below hpath
    show ∃ inner, Layer.get? name (Layer.placed v (Layer.path key) below) = some (.table inner)
    replace hpath : Layer.path key = .key name :: .key next :: steps := hpath
    rw [hpath]
    exact Layer.get?_placed_of_key_key v name next steps below
  assigned?_key := by
    intro word v
    rw [toml_assigned?, Option.map_map]
    exact Option.map_id_apply
  assigned?_value := by
    intro word v e he
    rw [toml_assigned?] at he
    obtain ⟨key, -, rfl⟩ := Option.map_eq_some_iff.mp he
    exact Environment.value_ne_table v.2
  mem_of_mem_gather := id
  exists_mem_gather := fun {_ e} he => ⟨e.2, he⟩
  file?_congr := by
    intro path files files' _ hpath hbeside
    show ((textAt? path files').bind Toml.read?).bind Toml.dated? = _
    rw [textAt?_congr hpath hbeside]
    rfl

end Settings

end MailFilter
