import Flowline.Command

/-!
# The program

Reads the files that a command asks for, prints its report and writes its file.
-/

open Flowline Flowline.Simulation

/-- Why the system has refused a file operation. -/
def osErrorOf : IO.Error → OsError
  | .permissionDenied _ _ _ => .permissionDenied
  | .inappropriateType _ _ _ => .isDirectory
  | _ => .notFound

/-- The result of a file operation. -/
def attemptFile {α : Type} (operation : IO α) : IO (Except OsError α) := do
  try
    return .ok (← operation)
  catch e => return .error (osErrorOf e)

def main (args : List String) : IO UInt32 := do
  match Command.parse args with
  | none =>
    IO.eprintln "usage: (validate | compile | simulate) FILE [OPTIONS]"
    return 2
  | some command =>
    let files ← command.inputs.mapM fun (path : String) => do
      return (path, ← attemptFile (IO.FS.readFile path))
    let searchPath ← IO.getEnv "PATH"
    let report := command.report (fun path => (files.lookup path).getD (.error .notFound))
      (searchPath.toList.map fun p => ("PATH", p))
    let report ← match report.file with
      | none => pure report
      | some (path, text) =>
        match ← attemptFile (IO.FS.writeFile path text) with
        | .ok () => pure report
        | .error why => pure (report.notWritten path why)
    IO.print report.out
    IO.eprint report.err
    return UInt32.ofNat report.exit
