import MailFilter.Files
import MailFilter.Settings.Decoding
import MailFilter.Settings.Environment
import MailFilter.Toml.Dated
import MailFilter.Toml.Reader

/-!
# What is left to a library

Loading settings in layers is not the program's own work. A library finds and reads the file that
is meant by a path, takes variables for settings, lays one source over the other, and says which
values serve as what. The program only tells it where to look and in which order to lay, so all
the rest is a parameter here, a `Library`. Which formats a settings file may have, which files are
looked for beside a directory and in which order the entries of a source are taken are matters of
the library alone.

`Library.toml` is one that knows settings files in TOML and takes entries in the order in which
they are written. It is the one that the program runs with.
-/

namespace MailFilter.Settings

open Layer (Entries Step)
open Toml (Value)

/-- A library for settings in layers. A source is the list of what it sets, keys with values, in
the order in which it is laid. -/
structure Library where
  /-- The path that a key of a source stands for. -/
  path : String → List Step
  /-- Sets a key of a source in what the sources before it amount to. -/
  set : String → Value → Entries → Entries
  /-- What a variable sets, if its name starts with the agreed word. -/
  assigned? : String → String × String → Option (String × Value)
  /-- The source that several variables make up: a value for each of their keys, in any order. -/
  gather : Entries → Entries
  /-- The source that a path at which there is something leads to, if it leads to one. -/
  file? : String → Files → Option Entries
  /-- The paths that may be meant by one that leads to no file. -/
  beside : String → List String
  /-- How values are understood. -/
  manner : Manner

namespace Library

/-- What the sources so far amount to with a further one laid over them. -/
def lay (L : Library) (above below : Entries) : Entries :=
  above.foldl (fun below e => L.set e.1 e.2 below) below

/-- What the variables of an environment set that start with the agreed word. -/
def assigned (L : Library) (word : String) (environment : Environment) : Entries :=
  environment.filterMap (L.assigned? word)

end Library

/-! ## Settings files in TOML -/

/-- The extension of settings files. -/
def fileExtension : String := "toml"

/-- The text of the settings file that is meant by a path at which there is something. If there is
a directory at the path, the file of that name beside it is meant. -/
def textAt? (path : String) (files : Files) : Option String :=
  match files path with
  | .text s => if Files.extension? path = some fileExtension then some s else none
  | .directory => do (files (← Files.extended? path fileExtension)).text?
  | .nothing | .unreadable => none

/-- The library of settings files in TOML. -/
def Library.toml : Library where
  path := Layer.path
  set key v := Layer.placed v (Layer.path key)
  assigned? word v := (Environment.key? word v.1).map fun key => (key, Environment.value v.2)
  gather := id
  file? path files := ((textAt? path files).bind Toml.read?).bind Toml.dated?
  beside path := (Files.extended? path fileExtension).toList
  manner := .loose

end MailFilter.Settings
