import Flowline.Pipeline.Document
import Flowline.Service

/-!
# The command line

`validate`, `compile` and `simulate` for pipeline documents in files.  The arguments become a command, and
a command with the contents of its files becomes a report: what is printed, what is written and how it
ends.
-/

namespace Flowline

open Simulation

inductive Command
  | version
  | validate (pipeline : String)
  | compile (pipeline : String) (out : Option String) (secrets : List (String × String))
  | simulate (pipeline : String) (config : Option String) (secrets : List (String × String))

namespace Command

/-! ## Arguments -/

/-- An option of a command: its long name, its letter if it has one, and whether it may be repeated. -/
structure Flag where
  long : String
  letter : Option Char
  repeats : Bool

/-- The arguments of a command as far as they have been read. -/
structure Arguments where
  operands : List String
  options : List (String × String)

/-- Whether an argument may stand as a value: it does not look like an option. -/
def isValue (arg : String) : Bool := arg.toList.head? ≠ some '-' || arg = "-"

/-- An option with its value if both stand in one argument. -/
def attached (known : List Flag) (arg : String) : Option (Flag × Option String) :=
  match arg.toList with
  | '-' :: '-' :: cs =>
    let name := String.ofList (cs.takeWhile (· ≠ '='))
    (known.find? (·.long = name)).map fun o =>
      (o, if cs.contains '=' then some (String.ofList (cs.drop (name.length + 1))) else none)
  | '-' :: c :: cs =>
    (known.find? (·.letter = some c)).map fun o =>
      (o, match cs with
        | [] => none
        | '=' :: value => some (String.ofList value)
        | value => some (String.ofList value))
  | _ => none

/-- Adds the value of an option, unless the option is there already and does not repeat. -/
def Arguments.add (a : Arguments) (o : Flag) (value : String) : Option Arguments :=
  if value = "" || (! o.repeats && a.options.any (·.1 = o.long)) then none
  else some { a with options := a.options ++ [(o.long, value)] }

/-- Reads the arguments of a command; nothing if they are not as they should be. -/
def arguments (known : List Flag) : List String → Arguments → Option Arguments
  | [], a => some a
  | "--" :: rest, a => some { a with operands := a.operands ++ rest }
  | arg :: rest, a =>
    if isValue arg then arguments known rest { a with operands := a.operands ++ [arg] }
    else
      match attached known arg, rest with
      | none, _ => none
      | some (o, some value), rest => (a.add o value).bind (arguments known rest)
      | some (o, none), value :: rest =>
        if isValue value then (a.add o value).bind (arguments known rest) else none
      | some (_, none), [] => none

/-- A name and a value with `=` between them. -/
def secret? (s : String) : Option (String × String) :=
  let name := Text.before '=' s
  if name = "" || name = s then none
  else some (name, String.ofList (s.toList.drop (name.length + 1)))

def outOption : Flag := ⟨"out", some 'o', false⟩

def configOption : Flag := ⟨"config", some 'c', false⟩

def secretOption : Flag := ⟨"secret", none, true⟩

namespace Arguments

/-- The one operand. -/
def path? (a : Arguments) : Option String :=
  match a.operands with
  | [p] => if p = "" then none else some p
  | _ => none

def secrets? (a : Arguments) : Option (List (String × String)) :=
  (a.options.filter (·.1 = "secret")).mapM fun (_, value) => secret? value

end Arguments

/-- The command that some arguments ask for; nothing if they are not as they should be. -/
def parse (args : List String) : Option Command :=
  match args with
  | "validate" :: rest => do
    let a ← arguments [] rest ⟨[], []⟩
    return .validate (← a.path?)
  | "compile" :: rest => do
    let a ← arguments [outOption, secretOption] rest ⟨[], []⟩
    return .compile (← a.path?) (a.options.lookup "out") (← a.secrets?)
  | "simulate" :: rest => do
    let a ← arguments [configOption, secretOption] rest ⟨[], []⟩
    return .simulate (← a.path?) (a.options.lookup "config") (← a.secrets?)
  | arg :: _ =>
    if arg = "--version" || "-V".toList.isPrefixOf arg.toList then some .version else none
  | [] => none

/-! ## Reports -/

structure Report where
  exit : Nat
  out : String
  err : String
  /-- A file to be written, with what is in it. -/
  file : Option (String × String)

/-- What went wrong, and what has caused it. -/
structure Failure where
  message : String
  cause : Option String

/-- The message, and the cause below it, with its lines moved in. -/
def Failure.text (f : Failure) : String :=
  "Error: " ++ f.message ++ "\n" ++
    match f.cause with
    | some cause => "\nCaused by:\n    " ++ Text.replace cause "\n" "\n    " ++ "\n"
    | none => ""

def Report.ofFailure (f : Failure) : Report := ⟨1, "", Text.dropPositions f.text, none⟩

/-- The report of a command whose arguments are not as they should be. -/
def Report.misuse : Report := ⟨2, "", "", none⟩

/-- The report after the file could not be written. -/
def Report.notWritten (r : Report) (path : String) (why : OsError) : Report :=
  { r with
    exit := 1
    file := none
    err := r.err ++ Text.dropPositions (Failure.text ⟨"writing " ++ path, some why.message⟩) }

/-- The contents of files, or why they cannot be read. -/
abbrev Contents := String → Except OsError String

/-- The text of a file. -/
def read (contents : Contents) (path : String) : Except Failure String :=
  match contents path with
  | .ok text => .ok text
  | .error why => .error ⟨"reading " ++ path, some why.message⟩

/-- The pipeline in a file. -/
def load (contents : Contents) (path : String) : Except Failure Pipeline := do
  let text ← read contents path
  match Pipeline.parse text with
  | .ok p => return p
  | .error fault => throw ⟨fault.documentMessage, some fault.message⟩

/-- The configuration in a file, the defaults without a file. -/
def loadConfig (contents : Contents) : Option String → Except Failure Config
  | none => .ok {}
  | some path => do
    let text ← read contents path
    match Config.parse text with
    | .ok c => return c
    | .error fault => throw ⟨"parsing " ++ path, some fault.message⟩

/-- A service with one pipeline and the built-in kinds. -/
def service (p : Pipeline) (secrets : List (String × String)) (config : Config) (host : Table String) :
    Service :=
  (Service.new Catalog.builtin (Secrets.ofValues secrets) Chains.standard config host).insert p

def Failure.ofService (e : ServiceError) : Failure := ⟨e.message, none⟩

def lines (ls : List String) : String := String.join (ls.map (· ++ "\n"))

def validateReport (contents : Contents) (path : String) : Except Failure Report := do
  let p ← load contents path
  let diagnostics := p.validate Builtin.schemas
  return ⟨if Diagnostic.isCompilable diagnostics then 0 else 1,
    (Json.array (diagnostics.map Diagnostic.toJson)).pretty ++ "\n", "", none⟩

def compileReport (contents : Contents) (path : String) (out : Option String)
    (secrets : List (String × String)) : Except Failure Report := do
  let p ← load contents path
  match (service p secrets {} []).compile p.id with
  | .error e => throw (.ofService e)
  | .ok compiled =>
    let warnings := lines (compiled.warnings.map Diagnostic.text)
    match out with
    | some file => return ⟨0, "", warnings, some (file, compiled.code)⟩
    | none => return ⟨0, compiled.code, warnings, none⟩

/-! ## Showing a run -/

def exitCodeText : Option Int → String
  | some n => "Some(" ++ toString n ++ ")"
  | none => "None"

/-- Adds what is printed of an event. -/
def Report.show (r : Report) : Event → Report
  | .log .stdout line => { r with out := r.out ++ line ++ "\n" }
  | .log stream line => { r with err := r.err ++ "[" ++ stream.title ++ "] " ++ line ++ "\n" }
  | .gap missed => { r with err := r.err ++ "[gap] " ++ toString missed ++ " events dropped\n" }
  | .complete success exitCode reason => { r with
      exit := if success then 0 else 1
      err := r.err ++ "[done] reason=" ++ reason.title ++ " exit_code=" ++ exitCodeText exitCode ++ "\n" }

/-- What is printed of the events of a session. -/
def showEvents (session : String) (events : List Event) : Report :=
  let r := events.foldl Report.show ⟨1, "", "", none⟩
  if events.any Event.isTerminal then r
  else { r with err := r.err ++
    Failure.text ⟨"log stream for session " ++ session ++ " ended without completion", none⟩ }

def simulateReport (contents : Contents) (host : Table String) (path : String) (config : Option String)
    (secrets : List (String × String)) : Except Failure Report := do
  let config ← loadConfig contents config
  let p ← load contents path
  match (service p secrets config host).simulate p.id with
  | .error e => throw (.ofService e)
  | .ok (session, s) =>
    match s.subscribe session with
    | .error e => throw (.ofService e)
    | .ok sub => return showEvents session (s.collect sub).1

/-- The report of a command. -/
def report (contents : Contents) (host : Table String) (c : Command) : Report :=
  let answer : Except Failure Report := match c with
    | version => .ok ⟨0, "pipeline-compiler 0.1.0\n", "", none⟩
    | validate path => validateReport contents path
    | compile path out secrets => compileReport contents path out secrets
    | simulate path config secrets => simulateReport contents host path config secrets
  match answer with
  | .ok r => { r with err := Text.dropPositions r.err }
  | .error f => .ofFailure f

/-- The files that a command reads. -/
def inputs : Command → List String
  | version => []
  | validate path => [path]
  | compile path _ _ => [path]
  | simulate path config _ => config.toList ++ [path]

/-! ## In a tree of files -/

/-- The report after its file has been written to a tree of files, seen from a directory, and the files. -/
def Report.written (r : Report) (fs : Shell.Files) (directory : String) : Report × Shell.Files :=
  match r.file with
  | none => (r, fs)
  | some (path, text) =>
    match fs.lookup? directory (Shell.ofText path) with
    | some ⟨.descriptor 1, _, _, _⟩ => ({ r with file := none, out := r.out ++ text }, fs)
    | some ⟨.descriptor 2, _, _, _⟩ => ({ r with file := none, err := r.err ++ text }, fs)
    | _ =>
      match fs.write directory (Shell.ofText path) text with
      | .ok fs => ({ r with file := none }, fs)
      | .error why => (r.notWritten path why, fs)

/-- The report of the command that some arguments ask for, and the files after it. -/
def run (fs : Shell.Files) (directory : String) (host : Table String) (args : List String) :
    Report × Shell.Files :=
  match parse args with
  | none => (Report.misuse, fs)
  | some c => (report (fun path => fs.read directory (Shell.ofText path)) host c).written fs directory

end Command

end Flowline
