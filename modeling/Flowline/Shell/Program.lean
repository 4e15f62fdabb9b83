import Flowline.Shell.Eval
import Flowline.Shell.Utility.Batches
import Flowline.Shell.Utility.Blocks
import Flowline.Shell.Utility.Calendar
import Flowline.Shell.Utility.Characters
import Flowline.Shell.Utility.Columns
import Flowline.Shell.Utility.Comparison
import Flowline.Shell.Utility.Digests
import Flowline.Shell.Utility.Finding
import Flowline.Shell.Utility.Measure
import Flowline.Shell.Utility.Part
import Flowline.Shell.Utility.Printing
import Flowline.Shell.Utility.Search
import Flowline.Shell.Utility.Sed
import Flowline.Shell.Utility.Sequence
import Flowline.Shell.Utility.Sorting
import Flowline.Shell.Utility.Surroundings

/-!
# Programs

The programs of the system by their names, and how a program takes the place of a process.
-/

namespace Flowline.Shell

/-! ## Programs that run no others -/

/-- What a program of the system does with its arguments. -/
abbrev Utility := List String → Exec Unit

/-- Programs that pass on, cut and change what they read. -/
def filters : List (String × Utility) := [("cat", Exec.cat), ("tee", Exec.tee), ("head", Exec.head), ("tail", Exec.tail),
  ("nl", Exec.nl), ("fold", Exec.fold), ("expand", Exec.expand), ("unexpand", Exec.unexpand), ("paste", Exec.paste),
  ("tac", Exec.tac), ("rev", Exec.rev), ("wc", Exec.wc), ("od", Exec.od), ("grep", Exec.grep),
  ("egrep", Exec.grepWith ["-E"]), ("fgrep", Exec.grepWith ["-F"]), ("sed", Exec.sed), ("cut", Exec.cut),
  ("uniq", Exec.uniq), ("comm", Exec.comm), ("tr", Exec.tr), ("sort", Exec.sort), ("dd", Exec.dd), ("cmp", Exec.cmp),
  ("diff", Exec.diff)]

/-- Programs that tell texts apart, or write their bytes in another way. -/
def digestUtilities : List (String × Utility) := [("md5sum", Exec.digests Digest.md5),
  ("sha1sum", Exec.digests Digest.sha1), ("sha224sum", Exec.digests Digest.sha224),
  ("sha256sum", Exec.digests Digest.sha256), ("sha384sum", Exec.digests Digest.sha384),
  ("sha512sum", Exec.digests Digest.sha512), ("cksum", Exec.cksum), ("sum", Exec.sum), ("base64", Exec.base64)]

/-- Programs that look after files. -/
def fileUtilities : List (String × Utility) := [("basename", Exec.basename), ("dirname", Exec.dirname),
  ("touch", Exec.touch), ("mkdir", Exec.mkdir), ("mkfifo", Exec.mkfifo), ("mktemp", Exec.mktemp), ("truncate", Exec.truncate),
  ("rmdir", Exec.rmdir), ("rm", Exec.rm), ("unlink", Exec.unlink), ("cp", Exec.cp), ("mv", Exec.mv), ("ln", Exec.ln),
  ("link", Exec.link), ("readlink", Exec.readlink), ("realpath", Exec.realpath), ("chmod", Exec.chmod),
  ("ls", Exec.ls), ("stat", Exec.stat), ("sync", fun _ => Exec.status 0)]

/-- Programs that compute, tell or wait. -/
def otherUtilities : List (String × Utility) := [("true", fun _ => Exec.status 0), ("false", fun _ => Exec.status 1),
  ("echo", Exec.echoProgram), ("printf", Exec.printfProgram), ("expr", Exec.expr), ("factor", Exec.factor),
  ("test", Exec.testProgram), ("[", Exec.bracketProgram), ("seq", Exec.seq), ("yes", Exec.yes), ("sleep", Exec.sleep),
  ("date", Exec.date), ("printenv", Exec.printenv), ("pwd", Exec.pwdProgram), ("tty", Exec.tty), ("uname", Exec.uname),
  ("arch", Exec.oneLine "x86_64"), ("whoami", Exec.oneLine "root"), ("hostname", Exec.oneLine "localhost"),
  ("nproc", Exec.oneLine "4"), ("groups", Exec.oneLine "root"), ("logname", Exec.logname), ("id", Exec.identity), ("which", Exec.which),
  ("kill", Exec.killProgram)]

def utilities : List (String × Utility) := filters ++ digestUtilities ++ fileUtilities ++ otherUtilities

/-! ## Programs that run others -/

/-- What a program does with its arguments, if it runs others by means of `launch`. -/
abbrev Launcher := (launch : String → List String → Exec OsError) → Utility

def launchers : List (String × Launcher) := [("env", Exec.env), ("nohup", Exec.nohup), ("nice", Exec.nice),
  ("setsid", Exec.setsid), ("stdbuf", Exec.stdbuf), ("timeout", Exec.timeout), ("xargs", Exec.xargs), ("find", Exec.find)]

/-- The names of shells. -/
def shells : List String := ["sh", "dash"]

/-- The names of all programs of the system. -/
def programNames : List String := shells ++ launchers.map Prod.fst ++ utilities.map Prod.fst

/-! ## What is run -/

/-- The words of the first line of a script that names its interpreter. -/
def interpreterLine (text : String) : Option (String × Option String) :=
  match text.toList with
  | '#' :: '!' :: cs =>
    let isBlank (c : Char) : Bool := c = ' ' || c = '\t'
    let line := (cs.takeWhile (· ≠ '\n')).dropWhile isBlank
    let line := (line.reverse.dropWhile isBlank).reverse
    let name := line.takeWhile (! isBlank ·)
    let rest := (line.drop name.length).dropWhile isBlank
    if name.isEmpty then none
    else some (String.ofList name, if rest.isEmpty then none else some (String.ofList rest))
  | _ => none

/-- The program that is run in the place of the file at a path, with its arguments; a script that names no
interpreter is run by a shell. -/
def interpreted (fs : Files) (directory : String) : Nat → String → List String → Except OsError (String × List String)
  | 0, _, _ => .error .tooManyLinks
  | depth + 1, path, argv => do
    let name ← fs.find true directory path
    match fs.node? name with
    | none => throw .notFound
    | some n =>
      if n.isDirectory || ! n.isExecutable || path.toList.getLast? = some '/' then throw .permissionDenied
      match n.content with
      | .program program => return (program, argv)
      | .text text =>
        match interpreterLine text with
        | some (interpreter, arg?) =>
          interpreted fs directory depth interpreter (interpreter :: arg?.toList ++ path :: argv.drop 1)
        | none => interpreted fs directory depth "/bin/sh" ("/bin/sh" :: path :: argv.drop 1)
      | _ => throw .permissionDenied

/-- The most characters of one argument, or of one variable with its value. -/
def maxArgument : Nat := 0x1ffff

/-- The most characters of all arguments and variables together, with what it takes to keep each of them. -/
def maxArguments : Nat := 0x200000

/-- Whether a program can be given some arguments and variables. -/
def fits (argv : List String) (environment : List (String × String)) : Bool :=
  let sizes := argv.map String.length ++ environment.map fun (k, v) => k.length + 1 + v.length
  sizes.all (· ≤ maxArgument) && sizes.foldl (fun n size => n + size + 9) 0 ≤ maxArguments

namespace Exec

/-- The process as the program with some arguments finds it. -/
def replaced (p : Process) (argv : List String) : Process :=
  { p with
    name := argv.headD ""
    args := argv.drop 1
    vars := p.environment.map fun (k, v) => (k, ⟨some v, true, false⟩)
    functions := []
    aliases := []
    status := 0
    held := []
    jobs := []
    traps := []
    flags := []
    scopes := []
    loops := 0
    calls := 0
    kept := none
    buffer := ("", 0)
    writeError := none }

/-- The status of a program that could not write. -/
def writeErrorStatus (program : String) : Nat := if ["ls", "sort", "grep", "test", "["].contains program then 2 else 1

/-- Runs the program at a path in the place of the process; it comes back only with the reason why that
cannot be done. -/
def launch : Nat → String → List String → Exec OsError
  | 0, _, _ => hang
  | fuel + 1, path, argv => do
    let p ← get
    match interpreted (← files) p.directory 6 path argv with
    | .error e => return e
    | .ok (program, argv) =>
      if ! fits argv p.environment then return .tooManyArguments
      set (replaced p argv)
      changeWorld fun w => (replaced p argv).sync (startWork w) |>.updateEntry p.pid fun e => { e with pending := [] }
      let args := argv.drop 1
      let body : Exec Unit :=
        if shells.contains program then shell (launch fuel) fuel argv
        else
          match launchers.lookup program, utilities.lookup program with
          | some run, _ => run (launch fuel) args
          | none, some run => run args
          | none, none => status 126
      let _ ← attempt body
      match ← close with
      | some e =>
        complain ("write error: " ++ e.text)
        status (writeErrorStatus program)
      | none => pure ()
      halt .ended

end Exec

end Flowline.Shell
