/-!
# Files

All that the program knows of the files around it is what it finds at a path: nothing, a file with
a text, a file whose text cannot be read, or something that is no file at all. Files are given as
a function from paths to what is found there, so that what a run does depends on nothing else.

What a file is written in is told from its name, by what is behind the last point of it.
-/

namespace MailFilter

/-- What is found at a path. -/
inductive Found where
  | nothing
  | text (s : String)
  | unreadable
  | directory
deriving DecidableEq, Repr, Inhabited

/-- What is found at each path. -/
abbrev Files := String → Found

namespace Found

/-- The text that is found. -/
def text? : Found → Option String
  | text s => some s
  | nothing | unreadable | directory => none

end Found

namespace Files

/-- A path, read backwards, without the slashes and the steps in place at its end. -/
def withoutEnd : List Char → List Char
  | '/' :: cs => withoutEnd cs
  | '.' :: '/' :: cs => withoutEnd cs
  | ['.'] => []
  | cs => cs

/-- The name at the end of a path, read backwards, if the path ends in one. -/
def nameOf? (path : String) : Option (List Char) :=
  let name := (withoutEnd path.toList.reverse).takeWhile (· != '/')
  if name = [] ∨ name = ['.', '.'] then none else some name

/-- What is behind the last point of the name at the end of a path. A point at the start of a
name does not count. -/
def extension? (path : String) : Option String := do
  let name ← nameOf? path
  match name.dropWhile (· != '.') with
  | [] | [_] => none
  | _ => some (String.ofList (name.takeWhile (· != '.')).reverse)

/-- The path of the file that has a further extension to its name. -/
def extended? (path : String) (extension : String) : Option String :=
  (nameOf? path).map fun _ =>
    String.ofList (withoutEnd path.toList.reverse).reverse ++ "." ++ extension

end Files

end MailFilter
