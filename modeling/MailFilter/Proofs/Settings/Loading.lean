import Mathlib.Control.Monad.Basic
import Mathlib.Data.List.Pairwise
import Mathlib.Tactic.MkIffOfInductiveProp
import MailFilter.Proofs.Settings.Layers
import MailFilter.Settings.Loading

/-!
# Each setting by itself

Settings are loaded from three layers, and what one of them says about a setting should decide
about that setting and no other: the variable of a setting comes first, then what the first file
says, then the default. **So it is for variables that go by keys** (`load_per_key`), whatever the
library is that loads them: a variable that names one setting, or a path that has nothing to do
with any, leaves the others to the file. Nothing else that could be looked at takes part, neither
a file behind the first nor a variable of another program.

Three things stand in the way of saying this of all files and variables.

* A section may be a **list**, which gives its settings by position. A variable with a key in that
  section makes a table of it, and the list is gone with all that it said.
* A variable may name a **position** of a section. That makes a list of it, and a table is gone.
* Where the first path leads to a **directory**, a settings file beside it is read instead, and
  this may well be one of the paths behind the first.

The result counts a list for nothing as soon as a variable has a key in its section, it asks
variables to go by keys, and it keeps the files beside a directory. `siblings_not_kept` shows that
each of the three has to be there.
-/

namespace MailFilter

open Layer (Entries Step)
open Manner (orDefault)
open Settings (Library)
open Toml (Value)

/-! ## What settings are taken from -/

/-- What some entries set a setting to: the member of its section that has its key, or its position
if the section is a list. A list counts for nothing where it is `replaced`. -/
def Setting.inEntries? (s : Setting) (replaced : Bool) (entries : Entries) : Option Value :=
  match Layer.get? s.sectionKey entries with
  | some (.table inner) => Layer.get? s.memberKey inner
  | some (.array items) => if replaced then none else items[s.position]?
  | _ => none

/-- Each setting is what the value that is given for it serves as, or the default if none is. -/
structure Settings.Follow (m : Manner) (given : Setting → Option Value) (settings : Settings) :
    Prop where
  level : orDefault "info" m.text? (given .level) = some settings.logging.level
  format : orDefault "text" m.text? (given .format) = some settings.logging.format
  maxDepth : orDefault 32 m.natural? (given .maxDepth) = some settings.filter.maxDepth
  fallback : orDefault .strict m.fallback? (given .fallback) = some settings.filter.fallback
  dialect : orDefault .polish m.dialect? (given .dialect) = some settings.filter.dialect

/-! ## What the variables name -/

namespace Environment

/-- The variables that count: those whose names start with the agreed word. -/
def counted (word : String) (environment : Environment) : Environment :=
  environment.filter fun v => (key? word v.1).isSome

/-- The value of the variable that names a setting. -/
def own? (L : Library) (word : String) (environment : Environment) (s : Setting) : Option Value :=
  (environment.find? fun v => key? word v.1 == some s.key).bind fun v =>
    (L.assigned? word v).map Prod.snd

/-- Whether a variable names something in a section. -/
def enters (L : Library) (word : String) (environment : Environment) (sectionKey : String) : Bool :=
  environment.any fun v =>
    ((key? word v.1).bind fun key => (L.path key).head?) == some (.key sectionKey)

/-- What counted variables name is clear: one setting, which no other of them names, or something
that is neither on the way to a setting nor behind one. -/
@[mk_iff]
structure Clear (L : Library) (word : String) (environment : Environment) : Prop where
  names : ∀ v ∈ environment, ∀ key ∈ key? word v.1,
    (∃ s : Setting, key = s.key) ∨
      ∀ s : Setting, ¬ L.path key <+: s.path ∧ ¬ s.path <+: L.path key
  once : environment.Pairwise fun v v' =>
    ∀ s : Setting, ¬ (key? word v.1 = some s.key ∧ key? word v'.1 = some s.key)

instance (L : Library) (word : String) (environment : Environment) :
    Decidable (Clear L word environment) :=
  decidable_of_iff _ (clear_iff L word environment).symm

/-- No counted variable names a position of a section. -/
def ByKey (L : Library) (word : String) (environment : Environment) : Prop :=
  ∀ v ∈ environment, ∀ key ∈ key? word v.1,
    ∀ (s : Setting) (i : Int), ¬ [Step.key s.sectionKey, .position i] <+: L.path key

end Environment

/-! ## What is looked at -/

namespace Settings

/-- What the first file there is among some paths sets. -/
inductive FirstFile (L : Library) (files : Files) : List String → Entries → Prop
  | none : FirstFile L files [] []
  | later {path : String} {paths : List String} {entries : Entries} :
      files path = .nothing → FirstFile L files paths entries →
      FirstFile L files (path :: paths) entries
  | here {path : String} {paths : List String} {source : Entries} :
      files path ≠ .nothing → L.file? path files = some source →
      FirstFile L files (path :: paths) (L.lay source [])

/-- The paths that are looked at: those up to the first at which there is something, and if that is
no file the paths that may be meant by it. -/
def lookedAt (L : Library) (files : Files) : List String → List String
  | [] => []
  | path :: paths =>
    match files path with
    | .nothing => path :: lookedAt L files paths
    | .text _ | .unreadable => [path]
    | .directory => path :: L.beside path

end Settings

/-! ## Settings are read member by member -/

namespace Manner

variable {m : Manner}

/-- Each member of the logging section is read by itself, and has its default without a section. -/
theorem orDefault_logging?_eq_some {section? : Option Value} {logging : LogSettings}
    (h : orDefault {} m.logging? section? = some logging) :
    orDefault "info" m.text? (section?.bind (member? "level" 0)) = some logging.level ∧
      orDefault "text" m.text? (section?.bind (member? "format" 1)) = some logging.format := by
  cases section? with
  | none =>
    obtain rfl := Option.some.inj h
    exact ⟨rfl, rfl⟩
  | some v =>
    replace h : m.logging? v = some logging := h
    unfold logging? at h
    split at h
    · obtain ⟨level, hlevel, h⟩ := Option.bind_eq_some_iff.mp h
      obtain ⟨format, hformat, h⟩ := Option.bind_eq_some_iff.mp h
      obtain rfl := Option.some.inj h
      exact ⟨hlevel, hformat⟩
    · cases h

/-- So is each member of the filter section. -/
theorem orDefault_filter?_eq_some {section? : Option Value} {filter : FilterSettings}
    (h : orDefault {} m.filter? section? = some filter) :
    orDefault 32 m.natural? (section?.bind (member? "max_depth" 0)) = some filter.maxDepth ∧
      orDefault .strict m.fallback? (section?.bind (member? "field_fallback" 1)) =
        some filter.fallback ∧
      orDefault .polish m.dialect? (section?.bind (member? "notation" 2)) =
        some filter.dialect := by
  cases section? with
  | none =>
    obtain rfl := Option.some.inj h
    exact ⟨rfl, rfl, rfl⟩
  | some v =>
    replace h : m.filter? v = some filter := h
    unfold filter? at h
    split at h
    · obtain ⟨maxDepth, hmaxDepth, h⟩ := Option.bind_eq_some_iff.mp h
      obtain ⟨fallback, hfallback, h⟩ := Option.bind_eq_some_iff.mp h
      obtain ⟨dialect, hdialect, h⟩ := Option.bind_eq_some_iff.mp h
      obtain rfl := Option.some.inj h
      exact ⟨hmaxDepth, hfallback, hdialect⟩
    · cases h

end Manner

theorem Setting.inEntries?_false (s : Setting) (entries : Entries) :
    s.inEntries? false entries =
      (Layer.get? s.sectionKey entries).bind (Manner.member? s.memberKey s.position) := by
  unfold inEntries?
  cases Layer.get? s.sectionKey entries with
  | none => rfl
  | some v => cases v <;> rfl

/-- **Settings that are read from a table follow what it sets them to.** -/
theorem Settings.follow_of_settings? {m : Manner} {entries : Entries} {settings : Settings}
    (h : m.settings? entries = some settings) :
    settings.Follow m fun s => s.inEntries? false entries := by
  obtain ⟨logging, hlogging, h⟩ := Option.bind_eq_some_iff.mp h
  obtain ⟨filter, hfilter, h⟩ := Option.bind_eq_some_iff.mp h
  obtain rfl := Option.some.inj h
  obtain ⟨hlevel, hformat⟩ := Manner.orDefault_logging?_eq_some hlogging
  obtain ⟨hmaxDepth, hfallback, hdialect⟩ := Manner.orDefault_filter?_eq_some hfilter
  constructor
  · rw [Setting.inEntries?_false]
    exact hlevel
  · rw [Setting.inEntries?_false]
    exact hformat
  · rw [Setting.inEntries?_false]
    exact hmaxDepth
  · rw [Setting.inEntries?_false]
    exact hfallback
  · rw [Setting.inEntries?_false]
    exact hdialect

/-! ## What the variables leave behind -/

namespace Environment

variable {L : Library} {word : String} {environment : Environment} {v : String × String}
  {key : String} {e : String × Value}

/-- What is gathered from the variables is what one of them sets. -/
theorem exists_of_mem_gather (hL : L.Lawful) (he : e ∈ L.gather (L.assigned word environment)) :
    ∃ v ∈ environment, L.assigned? word v = some e :=
  List.mem_filterMap.mp (hL.mem_of_mem_gather he)

theorem key?_of_assigned? (hL : L.Lawful) (h : L.assigned? word v = some e) :
    key? word v.1 = some e.1 := by
  rw [← hL.assigned?_key, h]
  rfl

/-- A variable that counts sets its key to something. -/
theorem exists_assigned? (hL : L.Lawful) (h : key? word v.1 = some key) :
    ∃ value, L.assigned? word v = some (key, value) := by
  rw [← hL.assigned?_key] at h
  obtain ⟨e, he, rfl⟩ := Option.map_eq_some_iff.mp h
  exact ⟨e.2, he⟩

/-- The key of a variable is among what is gathered. -/
theorem exists_gathered (hL : L.Lawful) (hv : v ∈ environment) (h : key? word v.1 = some key) :
    ∃ value, (key, value) ∈ L.gather (L.assigned word environment) := by
  obtain ⟨value, hassigned⟩ := exists_assigned? hL h
  exact hL.exists_mem_gather (List.mem_filterMap.mpr ⟨v, hv, hassigned⟩)

/-- The path that a variable names is that of a setting, or parts from it. -/
theorem parts_of_key_ne (hL : L.Lawful) (hclear : Clear L word environment)
    (hkeys : ByKey L word environment) (hv : v ∈ environment) (hkey : key? word v.1 = some key)
    {s : Setting} (hne : key ≠ s.key) : Layer.Parts s.keys (L.path key) := by
  rcases hclear.names v hv key hkey with ⟨s', rfl⟩ | hapart
  · have hsettings : s.keys ≠ s'.keys := fun h => hne (by rw [Setting.keys_inj h])
    rw [hL.path_key]
    exact Layer.parts_map_key rfl hsettings
  · obtain ⟨name, steps, hpath⟩ := hL.exists_path_eq key
    have hlist := hkeys v hv key hkey s
    have hapart := hapart s
    rw [hpath] at hlist hapart ⊢
    exact Layer.parts_pair hapart.1 hapart.2 hlist

/-- There is only one variable of a setting. -/
theorem eq_of_key? (hclear : Clear L word environment) {v' : String × String}
    (hv : v ∈ environment) (hv' : v' ∈ environment) {s : Setting}
    (hkey : key? word v.1 = some s.key) (hkey' : key? word v'.1 = some s.key) : v' = v := by
  by_contra hne
  have hsymm : Std.Symm fun v v' : String × String =>
      ∀ s : Setting, ¬ (key? word v.1 = some s.key ∧ key? word v'.1 = some s.key) :=
    ⟨fun v v' h s hboth => h s hboth.symm⟩
  exact hclear.once.forall hv' hv hne s ⟨hkey', hkey⟩

/-- **At the end of the path to a setting is the value of its own variable**, or what was there
before. -/
theorem find?_lay_variables (hL : L.Lawful) (hclear : Clear L word environment)
    (hkeys : ByKey L word environment) (s : Setting) (below : Entries) :
    Layer.find? s.keys (L.lay (L.gather (L.assigned word environment)) below) =
      (own? L word environment s).or (Layer.find? s.keys below) := by
  cases hfind : environment.find? fun v => key? word v.1 == some s.key with
  | none =>
    have hown : own? L word environment s = none := by rw [own?, hfind]; rfl
    rw [hown, Option.none_or]
    refine Library.find?_lay_of_parts hL (fun e he => ?_) below
    obtain ⟨v, hv, hassigned⟩ := exists_of_mem_gather hL he
    have hkey := key?_of_assigned? hL hassigned
    refine parts_of_key_ne hL hclear hkeys hv hkey fun hsetting => ?_
    have hnot := List.find?_eq_none.mp hfind v hv
    rw [hkey, hsetting] at hnot
    exact hnot (beq_self_eq_true _)
  | some v =>
    have hv : v ∈ environment := List.mem_of_find?_eq_some hfind
    have hfound := List.find?_some hfind
    have hkey : key? word v.1 = some s.key := eq_of_beq hfound
    obtain ⟨value, hassigned⟩ := exists_assigned? hL hkey
    have hown : own? L word environment s = some value := by
      rw [own?, hfind, Option.bind_some, hassigned]
      rfl
    rw [hown, Option.some_or]
    refine Library.find?_lay_eq_some hL (hL.assigned?_value hassigned) (fun e he => ?_) (.inl ?_)
    · obtain ⟨v', hv', hassigned'⟩ := exists_of_mem_gather hL he
      have hkey' := key?_of_assigned? hL hassigned'
      by_cases hsetting : e.1 = s.key
      · -- no other variable names the setting, so this is its value
        rw [hsetting] at hkey'
        obtain rfl := eq_of_key? hclear hv hv' hkey hkey'
        obtain rfl := Option.some.inj (hassigned'.symm.trans hassigned)
        exact .inl ⟨hL.path_key s, rfl⟩
      · exact .inr (parts_of_key_ne hL hclear hkeys hv' hkey' hsetting)
    · obtain ⟨value', hgathered⟩ := exists_gathered hL hv hkey
      exact ⟨_, hgathered, hL.path_key s⟩

/-! ## What becomes of a section -/

/-- A variable that names something in a section goes on with a key. -/
theorem exists_key_of_head? (hL : L.Lawful) (hclear : Clear L word environment)
    (hkeys : ByKey L word environment) (hv : v ∈ environment) (hkey : key? word v.1 = some key)
    {s : Setting} (hhead : (L.path key).head? = some (.key s.sectionKey)) :
    ∃ next steps, L.path key = .key s.sectionKey :: .key next :: steps := by
  obtain ⟨steps, hpath⟩ := List.head?_eq_some_iff.mp hhead
  have hlist := hkeys v hv key hkey s
  rw [hpath] at hlist
  cases steps with
  | nil =>
    exfalso
    rcases hclear.names v hv key hkey with ⟨s', rfl⟩ | hapart
    · rw [hL.path_key] at hpath
      exact absurd (congrArg List.length hpath) (by simp [Setting.path, Setting.keys])
    · refine (hapart s).1 ?_
      rw [hpath]
      exact List.prefix_append [Step.key s.sectionKey] [.key s.memberKey]
  | cons step steps =>
    cases step with
    | key next => exact ⟨next, steps, hpath⟩
    | position i =>
      exact absurd (List.prefix_append [Step.key s.sectionKey, .position i] steps) (hlist i)

/-- A section that a variable names something in is a table afterwards. -/
theorem exists_table_of_enters (hL : L.Lawful) (hclear : Clear L word environment)
    (hkeys : ByKey L word environment) {s : Setting}
    (h : enters L word environment s.sectionKey = true) (below : Entries) :
    ∃ inner, Layer.get? s.sectionKey
      (L.lay (L.gather (L.assigned word environment)) below) = some (.table inner) := by
  refine Library.exists_table_lay hL (fun e he hhead => ?_) (.inl ?_)
  · obtain ⟨v, hv, hassigned⟩ := exists_of_mem_gather hL he
    exact exists_key_of_head? hL hclear hkeys hv (key?_of_assigned? hL hassigned) hhead
  · obtain ⟨v, hv, hhead⟩ := List.any_eq_true.mp h
    obtain ⟨key, hkey, hhead⟩ := Option.bind_eq_some_iff.mp (eq_of_beq hhead)
    obtain ⟨value, hgathered⟩ := exists_gathered hL hv hkey
    exact ⟨_, hgathered, hhead⟩

/-- A section that no variable names anything in stays as it was. -/
theorem get?_lay_of_not_enters (hL : L.Lawful) {sectionKey : String}
    (h : enters L word environment sectionKey = false) (below : Entries) :
    Layer.get? sectionKey (L.lay (L.gather (L.assigned word environment)) below) =
      Layer.get? sectionKey below := by
  have hparts : ∀ e ∈ L.gather (L.assigned word environment),
      Layer.Parts [sectionKey] (L.path e.1) := by
    intro e he
    obtain ⟨v, hv, hassigned⟩ := exists_of_mem_gather hL he
    refine Library.parts_of_head?_ne hL fun hhead => ?_
    have hnot := List.any_eq_false.mp h v hv
    rw [key?_of_assigned? hL hassigned, Option.bind_some, hhead] at hnot
    exact hnot (beq_self_eq_true _)
  exact Library.find?_lay_of_parts hL hparts below

end Environment

namespace Setting

variable {s : Setting} {entries : Entries}

/-- Where the section is a table, a setting is what is at the end of its path. -/
theorem inEntries?_of_table {inner : Entries}
    (h : Layer.get? s.sectionKey entries = some (.table inner)) (replaced : Bool) :
    s.inEntries? replaced entries = Layer.find? s.keys entries := by
  rw [keys, Layer.find?_cons_cons, inEntries?, h]
  rfl

/-- So it is if lists count for nothing. -/
theorem inEntries?_true (s : Setting) (entries : Entries) :
    s.inEntries? true entries = Layer.find? s.keys entries := by
  rw [keys, Layer.find?_cons_cons, inEntries?]
  cases Layer.get? s.sectionKey entries with
  | none => rfl
  | some v => cases v <;> rfl

theorem inEntries?_congr {entries' : Entries}
    (h : Layer.get? s.sectionKey entries = Layer.get? s.sectionKey entries') (replaced : Bool) :
    s.inEntries? replaced entries = s.inEntries? replaced entries' := by
  rw [inEntries?, inEntries?, h]

end Setting

/-- **What variables make of a setting**: its own variable decides, and what was there before if
there is none. -/
theorem Environment.inEntries?_lay_variables {L : Library} {word : String}
    {environment : Environment} (hL : L.Lawful) (hclear : Clear L word environment)
    (hkeys : ByKey L word environment) (s : Setting) (below : Entries) :
    s.inEntries? false (L.lay (L.gather (L.assigned word environment)) below) =
      (own? L word environment s).or
        (s.inEntries? (enters L word environment s.sectionKey) below) := by
  cases henters : enters L word environment s.sectionKey with
  | true =>
    obtain ⟨inner, htable⟩ := exists_table_of_enters hL hclear hkeys henters below
    rw [Setting.inEntries?_of_table htable, Setting.inEntries?_true,
      find?_lay_variables hL hclear hkeys]
  | false =>
    -- the variable of the setting would name something in the section
    have hown : own? L word environment s = none := by
      have hfind : environment.find? (fun v => key? word v.1 == some s.key) = none := by
        refine List.find?_eq_none.mpr fun v hv hkey => ?_
        have hnot := List.any_eq_false.mp henters v hv
        rw [eq_of_beq hkey, Option.bind_some, hL.path_key] at hnot
        exact hnot (beq_self_eq_true _)
      rw [own?, hfind]
      rfl
    rw [hown, Setting.inEntries?_congr (get?_lay_of_not_enters hL henters below)]
    rfl

/-! ## One path after the other -/

namespace Settings

variable {L : Library} {files files' : Files} {path : String} {paths : List String}

theorem fileEntries_cons_of_nothing (h : files path = .nothing) (paths : List String) :
    fileEntries L (path :: paths) files = fileEntries L paths files := by
  rw [fileEntries, fileEntries, List.find?_cons_of_neg (by simp [h])]

theorem fileEntries_cons_of_ne (h : files path ≠ .nothing) (paths : List String) :
    fileEntries L (path :: paths) files =
      (L.file? path files).elim (.error .unloadable) fun source => .ok (L.lay source []) := by
  have hfind : (path :: paths).find? (fun path => files path != .nothing) = some path :=
    List.find?_cons_of_pos (by simpa using h)
  simp only [fileEntries, hfind]
  cases L.file? path files <;> rfl

/-- **What is loaded is what the first file there is sets.** -/
theorem firstFile_of_fileEntries {entries : Entries} (h : fileEntries L paths files = .ok entries) :
    FirstFile L files paths entries := by
  induction paths with
  | nil =>
    obtain rfl := Except.ok.inj h
    exact .none
  | cons path paths ih =>
    by_cases hfound : files path = .nothing
    · rw [fileEntries_cons_of_nothing hfound] at h
      exact .later hfound (ih h)
    · rw [fileEntries_cons_of_ne hfound] at h
      cases hsource : L.file? path files with
      | none =>
        rw [hsource] at h
        cases h
      | some source =>
        rw [hsource] at h
        obtain rfl := Except.ok.inj h
        exact .here hfound hsource

/-- **Nothing but what is looked at takes part.** -/
theorem fileEntries_congr (hL : L.Lawful)
    (h : ∀ path ∈ lookedAt L files paths, files' path = files path) :
    fileEntries L paths files' = fileEntries L paths files := by
  induction paths with
  | nil => rfl
  | cons path paths ih =>
    rw [lookedAt] at h
    by_cases hfound : files path = .nothing
    · simp only [hfound, List.mem_cons, forall_eq_or_imp] at h
      rw [fileEntries_cons_of_nothing hfound, fileEntries_cons_of_nothing h.1, ih h.2]
    · have hpath : files' path = files path := by
        refine h path ?_
        cases hfile : files path with
        | nothing => exact absurd hfile hfound
        | text s => exact List.mem_cons_self
        | unreadable => exact List.mem_cons_self
        | directory => exact List.mem_cons_self
      have hsource : L.file? path files' = L.file? path files := by
        refine hL.file?_congr hfound hpath fun hfile p hp => h p ?_
        rw [hfile]
        exact List.mem_cons_of_mem path hp
      rw [fileEntries_cons_of_ne hfound, fileEntries_cons_of_ne (hpath ▸ hfound), hsource]

end Settings

/-- Variables that do not count take no part. -/
theorem Environment.assigned_counted {L : Library} (hL : L.Lawful) (word : String)
    (environment : Environment) :
    L.assigned word (counted word environment) = L.assigned word environment := by
  have hsame : (fun v : String × String =>
      if (key? word v.1).isSome then L.assigned? word v else none) = L.assigned? word := by
    funext v
    rw [← hL.assigned?_key, Option.isSome_map]
    cases L.assigned? word v <;> rfl
  rw [Library.assigned, Library.assigned, counted, List.filterMap_filter, hsame]

/-! ## Loading -/

/-- Loading is reading the first file, laying the variables over it, and reading the outcome. -/
theorem Settings.loadBy_eq_ok {L : Library} {paths : List String} {files : Files} {word : String}
    {environment : Environment} {settings : Settings}
    (h : loadBy L paths files word environment = .ok settings) :
    ∃ below, fileEntries L paths files = .ok below ∧
      L.manner.settings? (L.lay (L.gather (L.assigned word environment)) below) =
        some settings := by
  unfold loadBy at h
  cases hbelow : fileEntries L paths files with
  | error e =>
    rw [hbelow] at h
    cases h
  | ok below =>
    rw [hbelow] at h
    refine ⟨below, rfl, ?_⟩
    cases hsettings : L.manner.settings?
        (L.lay (L.gather (L.assigned word environment)) below) with
    | none =>
      simp only [bind, Except.bind, hsettings] at h
      cases h
    | some found =>
      simp only [bind, Except.bind, hsettings] at h
      rw [Except.ok.inj h]

/-- **Each setting is loaded by itself**, by every library that keeps the laws. It is what its own
variable says, or else what the first file sets it to, or else the default; a section that the file
gives as a list counts for nothing once a variable has a key in it. And whether settings are
loaded, and which, depends on what is found at the paths that are looked at and on the variables
that count, and on nothing else. -/
theorem load_per_key {L : Library} (hL : L.Lawful) (paths : List String) (files : Files)
    (word : String) (environment : Environment) :
    (environment.Clear L word → environment.ByKey L word →
      ∀ settings, Settings.loadBy L paths files word environment = .ok settings →
        ∃ entries, Settings.FirstFile L files paths entries ∧
          settings.Follow L.manner fun s =>
            (environment.own? L word s).or
              (s.inEntries? (environment.enters L word s.sectionKey) entries)) ∧
    ∀ (files' : Files) (environment' : Environment),
      (∀ path ∈ Settings.lookedAt L files paths, files' path = files path) →
      environment'.counted word = environment.counted word →
      Settings.loadBy L paths files' word environment' =
        Settings.loadBy L paths files word environment := by
  refine ⟨?_, ?_⟩
  · intro hclear hkeys settings hload
    obtain ⟨below, hbelow, hsettings⟩ := Settings.loadBy_eq_ok hload
    have hfollow := Settings.follow_of_settings? hsettings
    have hgiven : (fun s : Setting =>
        s.inEntries? false (L.lay (L.gather (L.assigned word environment)) below)) =
        fun s => (environment.own? L word s).or
          (s.inEntries? (environment.enters L word s.sectionKey) below) := by
      funext s
      exact Environment.inEntries?_lay_variables hL hclear hkeys s below
    rw [hgiven] at hfollow
    exact ⟨below, Settings.firstFile_of_fileEntries hbelow, hfollow⟩
  · intro files' environment' hfiles hcounted
    have hentries : Settings.fileEntries L paths files' = Settings.fileEntries L paths files :=
      Settings.fileEntries_congr hL hfiles
    have hassigned : L.assigned word environment' = L.assigned word environment := by
      rw [← Environment.assigned_counted hL word environment', hcounted,
        Environment.assigned_counted hL]
    rw [Settings.loadBy, Settings.loadBy, hentries, hassigned]

/-- The second of three paths is the first at which there is a file. Its level stays, since the
variables name the depth and something else, and what is broken behind it makes no difference. -/
theorem load_per_key_second_path :
    let files : Files := fun path =>
      if path = "b.toml" then .text "[logging]\nlevel = \"warn\"\n\n[filter]\nmax_depth = 3\n"
      else if path = "c.toml" then .text "[broken"
      else .nothing
    let files' : Files := fun path => if path = "c.toml" then .nothing else files path
    let environment : Environment :=
      [("MAILQUERY_FILTER__MAX_DEPTH", "8"), ("PATH", "/bin"), ("MAILQUERY_EXTRA__LEVEL", "off")]
    let environment' : Environment :=
      [("MAILQUERY_FILTER__MAX_DEPTH", "8"), ("MAILQUERY_EXTRA__LEVEL", "off")]
    let paths := ["a.toml", "b.toml", "c.toml"]
    let settings : Settings := ⟨⟨"warn", "text"⟩, ⟨8, .strict, .polish⟩⟩
    Library.toml.Lawful ∧ environment.Clear .toml "MAILQUERY" ∧
      environment.ByKey .toml "MAILQUERY" ∧
      Settings.load paths files "MAILQUERY" environment = .ok settings ∧
      (∃ entries, Settings.FirstFile .toml files paths entries ∧
        settings.Follow .loose fun s =>
          (environment.own? .toml "MAILQUERY" s).or
            (s.inEntries? (environment.enters .toml "MAILQUERY" s.sectionKey) entries)) ∧
      Settings.load paths files' "MAILQUERY" environment' =
        Settings.load paths files "MAILQUERY" environment := by
  intro files files' environment environment' paths settings
  have hload : Settings.load paths files "MAILQUERY" environment = .ok settings := by
    decide +kernel
  have hclear : environment.Clear .toml "MAILQUERY" := by decide +kernel
  have hkeys : environment.ByKey .toml "MAILQUERY" := by
    have hnamed : ∀ v ∈ environment, ∀ key ∈ Environment.key? "MAILQUERY" v.1,
        ∃ names ∈ [["filter", "max_depth"], ["extra", "level"]],
          Library.toml.path key = names.map Step.key := by
      decide +kernel
    intro v hv key hkey s i hstart
    obtain ⟨names, -, hpath⟩ := hnamed v hv key hkey
    rw [hpath] at hstart
    have hmem : Step.position i ∈ names.map Step.key := hstart.subset (by simp)
    obtain ⟨name, -, hname⟩ := List.mem_map.mp hmem
    cases hname
  have hfiles : ∀ path ∈ Settings.lookedAt .toml files paths, files' path = files path := by
    decide +kernel
  have hcounted : environment'.counted "MAILQUERY" = environment.counted "MAILQUERY" := by
    decide +kernel
  have hboth := load_per_key Library.toml_lawful paths files "MAILQUERY" environment
  exact ⟨Library.toml_lawful, hclear, hkeys, hload, hboth.1 hclear hkeys settings hload,
    hboth.2 files' environment' hfiles hcounted⟩

/-- A list that a variable of its section replaces, a variable that names a position, and a file
beside a directory: each of them takes part in settings that it does not name. -/
theorem siblings_not_kept :
    -- the file sets the format, no variable does, and it has its default
    (let files : Files := fun path =>
       if path = "a.toml" then .text "logging = [\"warn\", \"json\"]\n" else .nothing
     let environment : Environment := [("MAILQUERY_LOGGING__LEVEL", "off")]
     environment.Clear .toml "MAILQUERY" ∧
     environment.own? .toml "MAILQUERY" .format = none ∧
     Settings.load ["a.toml"] files "MAILQUERY" [] =
       .ok ⟨⟨"warn", "json"⟩, ⟨32, .strict, .polish⟩⟩ ∧
     Settings.load ["a.toml"] files "MAILQUERY" environment =
       .ok ⟨⟨"off", "text"⟩, ⟨32, .strict, .polish⟩⟩) ∧
    -- no file and no variable sets the level, and it is not its default
    (let environment : Environment := [("MAILQUERY_LOGGING[0]", "trace")]
     environment.Clear .toml "MAILQUERY" ∧
     environment.own? .toml "MAILQUERY" .level = none ∧
     Settings.load [] (fun _ => .nothing) "MAILQUERY" environment =
       .ok ⟨⟨"trace", "text"⟩, ⟨32, .strict, .polish⟩⟩) ∧
    -- the first path exists, and what is at the second decides
    (let files (text : String) : Files := fun path =>
       if path = "conf" then .directory else if path = "conf.toml" then .text text else .nothing
     Settings.load ["conf", "conf.toml"] (files "") "MAILQUERY" [] =
       .ok ⟨⟨"info", "text"⟩, ⟨32, .strict, .polish⟩⟩ ∧
     Settings.load ["conf", "conf.toml"] (files "[broken") "MAILQUERY" [] =
       .error .unloadable) := by
  decide +kernel

end MailFilter
