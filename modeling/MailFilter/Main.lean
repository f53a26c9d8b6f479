import MailFilter.CommandLine.Run

/-!
# The program

What a run can see is collected here, and what it leaves behind is written out.
-/

namespace MailFilter

open CommandLine

/-- The code of the error that a directory has been read like a file. -/
def directoryRead : UInt32 := 21

/-- What is found at a path. -/
def look (path : String) : IO Found := do
  try
    return .text (← IO.FS.readFile path)
  catch e =>
    match e with
    | .noFileOrDirectory .. => return .nothing
    | .inappropriateType _ code _ =>
      -- otherwise the path leads on from a file
      return if code = directoryRead then .directory else .nothing
    | _ => return .unreadable

/-- A variable and its value. -/
def entryOf (entry : String) : String × String :=
  let name := entry.toList.takeWhile (· != '=')
  (String.ofList name, String.ofList (entry.toList.drop (name.length + 1)))

/-- The variables of the environment. -/
def environment : IO Environment := do
  let text := ((← look "/proc/self/environ").text?).getD ""
  return ((text.splitOn "\x00").filter fun entry => !entry.isEmpty).map entryOf

/-- What a run with these arguments can see. The input is read only when nothing else is. -/
def surroundings (request : Request) : IO Surroundings := do
  match request with
  | .filter a =>
    let found ← a.paths.mapM fun path => return (path, ← look path)
    let input ← if a.file.isSome then pure .nothing else look "/dev/stdin"
    return ⟨fun path => (found.lookup path).getD .nothing, ← environment, input.text?.getD ""⟩
  | _ => return ⟨fun _ => .nothing, [], ""⟩

end MailFilter

/-- Runs the program and returns its status. -/
def main (args : List String) : IO UInt32 := do
  let seen ← MailFilter.surroundings (MailFilter.CommandLine.Request.ofArguments args)
  let outcome := MailFilter.CommandLine.run args seen
  for record in outcome.log do
    IO.eprintln (record.level.name ++ " " ++ record.target ++ ": " ++ record.message)
  IO.print outcome.output
  if let some message := outcome.error then
    IO.eprintln ("Error: " ++ message)
  return UInt32.ofNat outcome.status
