import MailFilter.Error
import MailFilter.Settings.Library

/-!
# Where settings come from

A settings file that is asked for by name is all there is: it has to exist and is understood
exactly. Otherwise settings are loaded from the usual places by a library: the first file there
is among some paths, with the variables of the environment laid over it, both understood as the
library does. Files behind the first one are not looked at, not even when the first one is broken.
-/

namespace MailFilter

/-- Why there are no settings. -/
inductive SettingsError where
  | unreadable
  | malformed
  | unloadable
deriving DecidableEq, Repr

/-- The text shown when there are no settings. -/
def SettingsError.message : SettingsError → String
  | unreadable => "Failed to read config file"
  | malformed => "Failed to parse config"
  | unloadable => "Failed to load config"

/-- The error that a caller is told. -/
def Error.ofSettings (e : SettingsError) : Error :=
  ⟨.configuration, e.message⟩

namespace Settings

/-- The settings of one file, understood exactly. -/
def ofFile (file : Found) : Except SettingsError Settings :=
  match file.text? with
  | none => .error .unreadable
  | some text =>
    match (Toml.read? text).bind Manner.exact.settings? with
    | some settings => .ok settings
    | none => .error .malformed

/-- What the first file there is among some paths sets; nothing if there is none. -/
def fileEntries (L : Library) (paths : List String) (files : Files) :
    Except SettingsError Layer.Entries :=
  match paths.find? fun path => files path != .nothing with
  | none => .ok []
  | some path =>
    match L.file? path files with
    | some source => .ok (L.lay source [])
    | none => .error .unloadable

/-- The settings of the usual places, with the help of a library: the defaults, the first file
there is among the paths, and the variables that start with the agreed word, each overriding the
ones before key by key. -/
def loadBy (L : Library) (paths : List String) (files : Files) (word : String)
    (environment : Environment) : Except SettingsError Settings := do
  let below ← fileEntries L paths files
  -- defaults come last: a member that no layer has set is missing here
  match L.manner.settings? (L.lay (L.gather (L.assigned word environment)) below) with
  | some settings => .ok settings
  | none => .error .unloadable

/-- The settings of the usual places, the files among them in TOML. -/
def load (paths : List String) (files : Files) (word : String) (environment : Environment) :
    Except SettingsError Settings :=
  loadBy .toml paths files word environment

/-- The paths that the program loads settings from. -/
def usualPaths : List String := ["./mailquery.toml", "/etc/mailquery/config.toml"]

/-- The word that the program's variables start with. -/
def usualWord : String := "MAILQUERY"

end Settings

end MailFilter
