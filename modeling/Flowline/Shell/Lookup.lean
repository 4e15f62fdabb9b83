import Flowline.Shell.Grammar
import Flowline.Shell.Variables

/-!
# Finding commands

What the name of a command stands for: a keyword, a function, a command of the shell, or a program in one of
the directories of the search path.
-/

namespace Flowline.Shell

/-! ## Commands of the shell -/

/-- Those whose errors end a script are in `Parser.specialBuiltins`; these are the others. -/
def ordinaryBuiltins : List String := ["echo", "printf", "test", "[", "true", "false", "cd", "chdir", "pwd", "read",
  "wait", "kill", "command", "type", "umask", "hash", "alias", "unalias", "ulimit", "jobs", "getopts", "fg",
  "bg"]

def isSpecial (name : String) : Bool := Parser.specialBuiltins.contains name

def isBuiltin (name : String) : Bool := isSpecial name || ordinaryBuiltins.contains name

/-- Whether the arguments of a command may be assignments. -/
def takesAssignments (name : String) : Bool := ["export", "readonly", "local"].contains name

/-! ## Programs -/

/-- What is at the path of a program that can be run. -/
def programAt (fs : Files) (directory path : String) : Except OsError Unit := do
  let name ← fs.find true directory path
  match fs.node? name with
  | some n => if n.isDirectory || ! n.isExecutable then throw .permissionDenied
  | none => throw .notFound

/-- The path of a name in a directory of a search path. -/
def pathIn (name directory : String) : String := if directory = "" then name else directory ++ "/" ++ name

/-- The paths that a name may have in the directories of a search path. -/
def candidates (searchPath name : String) : List String := (Text.split ':' searchPath).map (pathIn name)

/-- The first path that leads to a program, or why none does; `why` is said if nothing is found. -/
def firstProgram (fs : Files) (directory : String) : List String → OsError → Except OsError String
  | [], why => .error why
  | path :: rest, why =>
    match programAt fs directory path with
    | .ok () => .ok path
    | .error .notFound => firstProgram fs directory rest why
    | .error .notDirectory => firstProgram fs directory rest why
    | .error e => firstProgram fs directory rest e

/-- The path of a program along a search path. -/
def findProgram (fs : Files) (directory searchPath name : String) : Except OsError String :=
  if name.toList.contains '/' then (programAt fs directory name).map fun () => name
  else if name = "" then .error .notFound
  else firstProgram fs directory (candidates searchPath name) .notFound

/-- The paths that a program tries in order to run another one; a directory whose name is too long for a path
is passed over. -/
def trialPaths (searchPath name : String) : List String :=
  ((Text.split ':' searchPath).filter (·.length ≤ Files.maxPath)).map (pathIn name)

/-- The first of some paths that leads to a program that can be run.  The search goes on where there is nothing
or where permission is denied, which is said if there is nothing anywhere; any other failure ends it. -/
def firstRunnable (fs : Files) (directory : String) : List String → OsError → Except OsError String
  | [], why => .error why
  | path :: rest, why =>
    match programAt fs directory path with
    | .ok () => .ok path
    | .error .notFound => firstRunnable fs directory rest why
    | .error .notDirectory => firstRunnable fs directory rest why
    | .error .permissionDenied => firstRunnable fs directory rest .permissionDenied
    | .error e => .error e

/-- The path at which a program runs another one. -/
def runnablePath (fs : Files) (directory searchPath name : String) : Except OsError String :=
  if name.toList.contains '/' then (programAt fs directory name).map fun () => name
  else if name = "" then .error .notFound
  else firstRunnable fs directory (trialPaths searchPath name) .notFound

/-- What a shell says when it cannot run something. -/
def programRefusal (e : OsError) : String :=
  match e with
  | .notFound => "not found"
  | .notDirectory => "not found"
  | e => e.text

namespace Exec

/-- Where programs look for other programs. -/
def searchPath (p : Process) : String := (p.value? "PATH").getD defaultPath

/-- Where a shell looks for programs: nowhere if it has not been told. -/
def shellPath (p : Process) : String := (p.value? "PATH").getD "/dev/null"

/-- What the name of a command stands for. -/
inductive Found
  | function (body : Command)
  | builtin
  | program

def lookupCommand (p : Process) (functions : Bool) (name : String) : Found :=
  match if functions then p.functions.lookup name else none with
  | some body => .function body
  | none => if isBuiltin name then .builtin else .program

end Exec

end Flowline.Shell
