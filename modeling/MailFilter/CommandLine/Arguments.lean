import MailFilter.Settings.Basic

/-!
# Arguments

The command line is read from left to right, and the first argument that settles what is to be
done ends the reading: one that is wrong, or one that asks for the version or for help. Options
that take a value have it behind an equals sign or as the next argument, which then may not look
like an option itself. Nothing may be given twice, and behind two dashes everything is a file.
-/

namespace MailFilter.CommandLine

/-- What the arguments ask for when they ask for a filter. -/
structure Arguments where
  config : Option String := none
  dialect : Option Dialect := none
  permissive : Bool := false
  json : Bool := false
  file : Option String := none
deriving DecidableEq, Repr

/-- What the arguments ask for. -/
inductive Request where
  | filter (arguments : Arguments)
  | version
  | help
  | misuse
deriving DecidableEq, Repr

/-- The options that stand for themselves. -/
inductive Flag where
  | permissive
  | json
  | version
  | help
deriving DecidableEq, Repr

/-- The options that take a value. -/
inductive Setting where
  | config
  | dialect
deriving DecidableEq, Repr

/-- What one argument is, as long as options are looked for. -/
inductive Argument where
  | endOfOptions
  | flag (flag : Flag)
  | setting (setting : Setting) (value? : Option String)
  | file (name : String)
  | unknown
deriving DecidableEq, Repr

/-- The flag of a name. -/
def Flag.ofName? (name : List Char) : Option Flag :=
  if name = "permissive".toList then some .permissive
  else if name = "json".toList then some .json
  else if name = "version".toList then some .version
  else if name = "help".toList then some .help
  else none

/-- The option of a name that takes a value. -/
def Setting.ofName? (name : List Char) : Option Setting :=
  if name = "config".toList then some .config
  else if name = "notation".toList then some .dialect
  else none

/-- An option behind two dashes, split at its first equals sign. Flags take no value. -/
def Argument.ofLong (cs : List Char) : Argument :=
  let name := cs.takeWhile (· != '=')
  let value? :=
    match cs.dropWhile (· != '=') with
    | [] => none
    | _ :: value => some (String.ofList value)
  match Setting.ofName? name with
  | some s => .setting s value?
  | none =>
    match Flag.ofName? name, value? with
    | some f, none => .flag f
    | _, _ => .unknown

/-- What an argument is. Of letters behind a single dash only the first one counts, since both
letters there are end the reading. -/
def Argument.ofText (arg : String) : Argument :=
  match arg.toList with
  | '-' :: '-' :: cs => if cs.isEmpty then .endOfOptions else .ofLong cs
  | '-' :: 'V' :: _ => .flag .version
  | '-' :: 'h' :: _ => .flag .help
  | '-' :: _ :: _ => .unknown
  | _ => .file arg

/-- The dialect that a value names on the command line. -/
def dialectOf? (value : String) : Option Dialect :=
  if value = "polish" then some .polish
  else if value = "search-query" then some .searchQuery
  else none

namespace Arguments

/-- Adds a file, of which there may be one, with a name. -/
def addFile (name : String) (a : Arguments) : Option Arguments :=
  if name.isEmpty || a.file.isSome then none else some { a with file := some name }

/-- Adds the value of an option that has none yet. -/
def addSetting (a : Arguments) (value : String) : Setting → Option Arguments
  | .config =>
    if value.isEmpty || a.config.isSome then none else some { a with config := some value }
  | .dialect =>
    match a.dialect, dialectOf? value with
    | none, some dialect => some { a with dialect := some dialect }
    | _, _ => none

/-- Adds the files behind the end of options. -/
def addFiles : List String → Arguments → Request
  | [], a => .filter a
  | name :: names, a =>
    match a.addFile name with
    | some a => addFiles names a
    | none => .misuse

/-- Whether an argument can be the value of the option in front of it. -/
def isValue (arg : String) : Bool :=
  match Argument.ofText arg with
  | .file _ => true
  | _ => false

/-- Reads arguments, those before them having been read already. -/
def read : List String → Arguments → Request
  | [], a => .filter a
  | arg :: args, a =>
    match Argument.ofText arg with
    | .endOfOptions => addFiles args a
    | .unknown => .misuse
    | .file name =>
      match a.addFile name with
      | some a => read args a
      | none => .misuse
    | .flag .version => .version
    | .flag .help => .help
    | .flag .permissive => if a.permissive then .misuse else read args { a with permissive := true }
    | .flag .json => if a.json then .misuse else read args { a with json := true }
    | .setting setting (some value) =>
      match a.addSetting value setting with
      | some a => read args a
      | none => .misuse
    | .setting setting none =>
      -- the value is the next argument
      match args with
      | [] => .misuse
      | value :: args =>
        if isValue value then
          match a.addSetting value setting with
          | some a => read args a
          | none => .misuse
        else .misuse

end Arguments

/-- What a command line asks for. -/
def Request.ofArguments (args : List String) : Request :=
  Arguments.read args {}

end MailFilter.CommandLine
