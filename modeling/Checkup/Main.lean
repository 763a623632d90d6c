import Checkup.Command

/-!
# The program

Reads the files that a command names, runs the command on them and prints what it comes to.  The
program itself starts no other programs and opens no connections: to it, no tool is installed and
every endpoint refuses.
-/

namespace Checkup

/-- What the file at a path holds. -/
def readFile (path : String) : IO (Except ReadFault (List UInt8)) := do
  try
    return .ok (← IO.FS.readBinFile path).toList
  catch
    | .noFileOrDirectory .. => return .error .notFound
    | e => return .error (.other (toString e))

/-- The path of the settings: as the environment says, or beside the program. -/
def settingsPath : IO String := do
  match ← IO.getEnv Command.Environment.settingsVariable with
  | some path => return path
  | none => return ((← IO.appPath).withFileName ".env").toString

/-- What a command meets outside. -/
def environmentFor (command : Command) : IO Command.Environment := do
  let settings ← settingsPath
  let mut found := [(settings, ← readFile settings)]
  if let .check path := command then
    found := (path, ← readFile path) :: found
  let known := found
  return {
    settingsPath := settings
    url := (← IO.getEnv Config.Settings.urlVariable).map String.toList
    around := {
      files := fun path => (known.lookup path).getD (.error .notFound)
      programs := fun _ => .error Lint.noProgram
      endpoint := fun _ => .refused } }

end Checkup

open Checkup in
def main (args : List String) : IO UInt32 := do
  let command := Command.ofArguments args
  let outcome := Command.run (← environmentFor command) command
  (← IO.getStdout).write ⟨outcome.stdout.toArray⟩
  return UInt32.ofNat outcome.exitCode
