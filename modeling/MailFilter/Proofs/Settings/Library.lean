import MailFilter.Settings.Library

/-!
# What may be relied on in a library

The program relies on little of what a library for settings in layers does, and `Lawful` says what
it is. A source overrides what the sources before it have set **leaf by leaf**: a value that is no
table is found at the end of its path, and at the end of a path that parts from that one at a key
everything is as it was. A variable sets the key that its name stands for. And a file is read from
its path, or from one beside it if there is no file at the path.

Of everything else nothing is said. A library may know settings files in any formats, it may take
the entries of a source in any order, and it may understand values in any manner.

The laws are about one entry of a source. What follows for a whole source does not depend on the
order of its entries (`find?_lay_eq_some`, `find?_lay_of_parts`, `exists_table_lay`).
-/

namespace MailFilter

open Layer (Entries Step)
open Toml (Value)

/-! ## The settings and their paths -/

/-- The settings. -/
inductive Setting where
  | level
  | format
  | maxDepth
  | fallback
  | dialect
deriving DecidableEq, Repr

namespace Setting

/-- The key of the section that a setting is in. -/
def sectionKey : Setting → String
  | level | format => "logging"
  | maxDepth | fallback | dialect => "filter"

/-- The key of a setting in its section. -/
def memberKey : Setting → String
  | level => "level"
  | format => "format"
  | maxDepth => "max_depth"
  | fallback => "field_fallback"
  | dialect => "notation"

/-- The position of a setting in its section, where that is a list. -/
def position : Setting → Nat
  | level => 0
  | format => 1
  | maxDepth => 0
  | fallback => 1
  | dialect => 2

/-- The keys that lead to a setting. -/
def keys (s : Setting) : List String := [s.sectionKey, s.memberKey]

/-- The path to a setting. -/
def path (s : Setting) : List Step := s.keys.map Step.key

/-- The key of a source that stands for the path to a setting. -/
def key (s : Setting) : String := ".".intercalate s.keys

/-- The settings, in the order of declaration. -/
def all : List Setting := [level, format, maxDepth, fallback, dialect]

theorem mem_all (s : Setting) : s ∈ all := by
  cases s <;> decide

instance {p : Setting → Prop} [DecidablePred p] : Decidable (∀ s, p s) :=
  decidable_of_decidable_of_iff (p := ∀ s ∈ all, p s)
    ⟨fun h s => h s s.mem_all, fun h s _ => h s⟩

instance {p : Setting → Prop} [DecidablePred p] : Decidable (∃ s, p s) :=
  decidable_of_decidable_of_iff (p := ∃ s ∈ all, p s)
    ⟨fun ⟨s, _, h⟩ => ⟨s, h⟩, fun ⟨s, h⟩ => ⟨s, s.mem_all, h⟩⟩

theorem keys_inj {s s' : Setting} (h : s.keys = s'.keys) : s = s' := by
  revert h
  cases s <;> cases s' <;> decide

end Setting

/-! ## Paths that part at a key -/

namespace Layer

/-- A path of keys and another path have different keys at some point, and the same keys before. -/
def Parts : List String → List Step → Prop
  | key :: keys, .key name :: steps => name ≠ key ∨ Parts keys steps
  | _, _ => False

/-- Different paths of the same number of keys part. -/
theorem parts_map_key {keys keys' : List String} (hlength : keys.length = keys'.length)
    (hne : keys ≠ keys') : Parts keys (keys'.map Step.key) := by
  induction keys generalizing keys' with
  | nil =>
    cases keys' with
    | nil => exact absurd rfl hne
    | cons key' keys' => cases hlength
  | cons key keys ih =>
    cases keys' with
    | nil => cases hlength
    | cons key' keys' =>
      by_cases hkey : key' = key
      · subst hkey
        have htail : keys ≠ keys' := fun h => hne (by rw [h])
        exact .inr (ih (Nat.succ.inj hlength) htail)
      · exact .inl hkey

theorem not_parts_map_key (keys : List String) : ¬ Parts keys (keys.map Step.key) := by
  induction keys with
  | nil => exact id
  | cons key keys ih => exact fun h => ih (h.resolve_left fun hne => hne rfl)

/-- A path parts from one of two keys if it starts with a key, leads neither to a start of the other
path nor on from its end, and enters no list under its first key. -/
theorem parts_pair {first second name : String} {steps : List Step}
    (hstart : ¬ Step.key name :: steps <+: [.key first, .key second])
    (hbehind : ¬ [Step.key first, .key second] <+: .key name :: steps)
    (hlist : ∀ i, ¬ [Step.key first, .position i] <+: .key name :: steps) :
    Parts [first, second] (.key name :: steps) := by
  by_cases hname : name = first
  · subst hname
    refine .inr ?_
    cases steps with
    | nil => exact absurd (List.prefix_append [Step.key name] [.key second]) hstart
    | cons step steps =>
      cases step with
      | position i => exact absurd (List.prefix_append [Step.key name, .position i] steps) (hlist i)
      | key other =>
        refine .inl fun hother => ?_
        subst hother
        exact hbehind (List.prefix_append [Step.key name, .key other] steps)
  · exact .inl hname

end Layer

namespace Settings.Library

/-! ## The laws -/

/-- What a library promises. -/
structure Lawful (L : Library) : Prop where
  /-- Keys with a point between them are a path. -/
  path_key : ∀ s : Setting, L.path s.key = s.path
  /-- A path starts with a key. -/
  exists_path_eq : ∀ key, ∃ name steps, L.path key = .key name :: steps
  /-- A value that is no table overrides what is at the end of its path. -/
  find?_set : ∀ {key name : String} {names : List String} {v : Value} (below : Entries),
    L.path key = (name :: names).map Step.key → (∀ entries, v ≠ .table entries) →
    Layer.find? (name :: names) (L.set key v below) = some v
  /-- What is at the end of another path stays as it was. -/
  find?_set_of_parts : ∀ {key : String} {names : List String} (v : Value) (below : Entries),
    Layer.Parts names (L.path key) →
    Layer.find? names (L.set key v below) = Layer.find? names below
  /-- Where a path goes on from a key with another key there is a table. -/
  get?_set : ∀ {key name next : String} {steps : List Step} (v : Value) (below : Entries),
    L.path key = .key name :: .key next :: steps →
    ∃ inner, Layer.get? name (L.set key v below) = some (.table inner)
  /-- A variable counts if its name starts with the word, and sets the key behind that. -/
  assigned?_key : ∀ word v, (L.assigned? word v).map Prod.fst = Environment.key? word v.1
  /-- The text of a variable stands for no table. -/
  assigned?_value : ∀ {word v e}, L.assigned? word v = some e → ∀ entries, e.2 ≠ .table entries
  /-- Nothing is gathered but what is there. -/
  mem_of_mem_gather : ∀ {source e}, e ∈ L.gather source → e ∈ source
  /-- Every key is gathered that is there. -/
  exists_mem_gather : ∀ {source e}, e ∈ source → ∃ v, (e.1, v) ∈ L.gather source
  /-- Where there is something at a path, only that matters, or what is beside it if it is no
  file. -/
  file?_congr : ∀ {path files files'}, files path ≠ .nothing → files' path = files path →
    (files path = .directory → ∀ p ∈ L.beside path, files' p = files p) →
    L.file? path files' = L.file? path files

/-! ## What follows for whole sources -/

variable {L : Library}

theorem lay_cons (L : Library) (e : String × Value) (above below : Entries) :
    L.lay (e :: above) below = L.lay above (L.set e.1 e.2 below) :=
  rfl

/-- **What no entry leads to stays as it was**, if every path of the source parts from the path to
it. -/
theorem find?_lay_of_parts (hL : L.Lawful) {names : List String} {above : Entries}
    (h : ∀ e ∈ above, Layer.Parts names (L.path e.1)) (below : Entries) :
    Layer.find? names (L.lay above below) = Layer.find? names below := by
  induction above generalizing below with
  | nil => rfl
  | cons e above ih =>
    obtain ⟨he, habove⟩ := List.forall_mem_cons.mp h
    rw [lay_cons, ih habove, hL.find?_set_of_parts e.2 below he]

/-- **What some entry sets is found**, in whatever order they are taken, if no entry sets it to
anything else. -/
theorem find?_lay_eq_some (hL : L.Lawful) {name : String} {names : List String} {v : Value}
    (hv : ∀ entries, v ≠ .table entries) {above below : Entries}
    (h : ∀ e ∈ above, (L.path e.1 = (name :: names).map Step.key ∧ e.2 = v) ∨
      Layer.Parts (name :: names) (L.path e.1))
    (hsome : (∃ e ∈ above, L.path e.1 = (name :: names).map Step.key) ∨
      Layer.find? (name :: names) below = some v) :
    Layer.find? (name :: names) (L.lay above below) = some v := by
  induction above generalizing below with
  | nil => exact hsome.resolve_left fun ⟨e, he, _⟩ => nomatch he
  | cons e above ih =>
    obtain ⟨he, habove⟩ := List.forall_mem_cons.mp h
    rw [lay_cons]
    refine ih habove ?_
    rcases he with ⟨hpath, rfl⟩ | hparts
    · exact .inr (hL.find?_set below hpath hv)
    · rw [hL.find?_set_of_parts e.2 below hparts]
      refine hsome.imp_left fun ⟨e', he', hpath⟩ => ?_
      rcases List.mem_cons.mp he' with rfl | hmem
      · rw [hpath] at hparts
        exact absurd hparts (Layer.not_parts_map_key _)
      · exact ⟨e', hmem, hpath⟩

/-- A path that starts with another key parts from a key. -/
theorem parts_of_head?_ne (hL : L.Lawful) {key name : String}
    (h : (L.path key).head? ≠ some (.key name)) : Layer.Parts [name] (L.path key) := by
  obtain ⟨first, steps, hpath⟩ := hL.exists_path_eq key
  rw [hpath] at h ⊢
  exact .inl fun hname => h (by rw [hname]; rfl)

/-- **A section that some entry leads into is a table afterwards**, if no entry sets it as a whole
or a position of it. -/
theorem exists_table_lay (hL : L.Lawful) {name : String} {above below : Entries}
    (h : ∀ e ∈ above, (L.path e.1).head? = some (.key name) →
      ∃ next steps, L.path e.1 = .key name :: .key next :: steps)
    (hsome : (∃ e ∈ above, (L.path e.1).head? = some (.key name)) ∨
      ∃ inner, Layer.get? name below = some (.table inner)) :
    ∃ inner, Layer.get? name (L.lay above below) = some (.table inner) := by
  induction above generalizing below with
  | nil => exact hsome.resolve_left fun ⟨e, he, _⟩ => nomatch he
  | cons e above ih =>
    obtain ⟨he, habove⟩ := List.forall_mem_cons.mp h
    rw [lay_cons]
    refine ih habove ?_
    by_cases hhead : (L.path e.1).head? = some (.key name)
    · obtain ⟨next, steps, hpath⟩ := he hhead
      exact .inr (hL.get?_set e.2 below hpath)
    · have hsame : Layer.get? name (L.set e.1 e.2 below) = Layer.get? name below :=
        hL.find?_set_of_parts e.2 below (parts_of_head?_ne hL hhead)
      rw [hsame]
      refine hsome.imp_left fun ⟨e', he', hhead'⟩ => ?_
      rcases List.mem_cons.mp he' with rfl | hmem
      · exact absurd hhead' hhead
      · exact ⟨e', hmem, hhead'⟩

end Settings.Library

end MailFilter
