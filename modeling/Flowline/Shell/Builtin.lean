import Flowline.Shell.Builtin.Control
import Flowline.Shell.Builtin.Input
import Flowline.Shell.Builtin.Names
import Flowline.Shell.Builtin.Place
import Flowline.Shell.Builtin.Variables
import Flowline.Shell.Format
import Flowline.Shell.Test

/-!
# Commands of the shell

The commands that a shell carries out itself and that run no others.
-/

namespace Flowline.Shell.Exec

def echo (args : List String) : Exec Unit := do
  print (Format.echo args)
  status 0

def printf (args : List String) : Exec Unit := do
  let (_, args) ← splitOptions "" args
  match args with
  | [] => abort "usage: printf format [arg ...]"
  | format :: args =>
    let p := Format.printf false format args
    for m in p.wrong do warn (m.fault.message m.arg)
    match p.invalid with
    | some (.noLetter _) => warn "missing format character"
    | some (.unknownLetter shown) => warn (shown ++ ": invalid directive")
    | none => pure ()
    print p.text
    status (if p.invalid.isSome then 2 else if p.wrong.isEmpty then 0 else 1)

/-- Decides a condition. -/
def test (args : List String) : Exec Unit := do
  let p ← get
  match Test.holds ⟨← files, p.directory, p.handle?⟩ args with
  | .ok b => status (if b then 0 else 1)
  | .error fault => abort fault.message

/-- A condition in brackets. -/
def bracket (args : List String) : Exec Unit := do
  if args.getLast? ≠ some "]" then abort "missing ]"
  test args.dropLast

/-- The time that the shell and its children have worked, which is none. -/
def times : Exec Unit := do
  let line := "0m0.000000s 0m0.000000s\n"
  print (line ++ line)
  status 0

/-- The command of a name. -/
def builtin? (name : String) : Option (List String → Exec Unit) :=
  match name with
  | ":" => some fun _ => status 0
  | "true" => some fun _ => status 0
  | "false" => some fun _ => status 1
  | "echo" => some echo
  | "printf" => some printf
  | "test" => some test
  | "[" => some bracket
  | "times" => some fun _ => times
  | "exit" => some exit
  | "break" => some (leaveLoops .broke)
  | "continue" => some (leaveLoops .continued)
  | "return" => some leaveFunction
  | "trap" => some trap
  | "kill" => some kill
  | "jobs" => some listJobs
  | "fg" => some resumeJob
  | "bg" => some resumeJob
  | "wait" => some wait
  | "read" => some read
  | "getopts" => some getopts
  | "alias" => some nameAliases
  | "unalias" => some unalias
  | "type" => some type
  | "command" => some commandInfo
  | "hash" => some hash
  | "cd" => some cd
  | "chdir" => some cd
  | "pwd" => some pwd
  | "umask" => some umask
  | "ulimit" => some ulimit
  | "export" => some (mark "export")
  | "readonly" => some (mark "readonly")
  | "local" => some local_
  | "unset" => some unsetAll
  | "set" => some setAll
  | "shift" => some shift
  | _ => none

end Flowline.Shell.Exec
