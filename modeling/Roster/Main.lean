import Roster.Program

/-!
# The command

Gathers what surrounds the program, runs it and shows how it ends.
-/

open Roster

/-- The number of the error that reading a directory ends in. -/
def directoryError : UInt32 := 21

/-- What stands at a path. -/
def itemAt (path : Text) : IO (Option Item) := do
  try
    let data ← IO.FS.readBinFile (String.ofList path)
    return some (.file (.bytes data.toList))
  catch
    | .inappropriateType _ code _ => return if code = directoryError then some .directory else none
    | _ => return none

/-- Looks at the disk and the environment, as far as is known to be needed. -/
def survey (s : Surroundings) : IO Surroundings := do
  let items ← (Program.paths s).mapM fun path => return (path, ← itemAt path)
  let disk : Disk := fun path => (items.lookup path).join
  let values ← (Program.variableNames { s with disk }).mapM fun name =>
    return (name, (← IO.getEnv (String.ofList name)).map String.toList)
  return { s with disk, environment := fun name => (values.lookup name).join }

def main (arguments : List String) : IO UInt32 := do
  let working := (toString (← IO.currentDir)).toList
  let start : Surroundings := ⟨arguments.map String.toList, Environment.empty, working, ['/'], fun _ => none⟩
  let s ← survey (← survey (← survey (← survey start)))
  let outcome := Program.run s
  IO.print (String.ofList outcome.output)
  IO.eprint (String.ofList outcome.errors)
  return outcome.exitCode
