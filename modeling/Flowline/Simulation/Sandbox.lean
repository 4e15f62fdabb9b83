import Flowline.Shell.Installation
import Flowline.Simulation.Config
import Flowline.Simulation.Watch

/-!
# Sandboxes

Every run has a directory of its own with the script's file in it and an environment that holds nothing
but what the configuration lets through and what the run is given.  `Sandbox.launch` says what the
program does there in the course of time if nobody stops it.
-/

namespace Flowline.Simulation

open Shell

/-- What a program does from its launch on, in milliseconds. -/
structure Timeline where
  /-- What it writes, in order of time. -/
  output : List (Nat × Console × List UInt8)
  /-- When and how it ends, if it does in the time that it has. -/
  exit : Option (Nat × Exit)
  /-- When nobody can write to each of its outputs any more. -/
  closes : Console → Option Nat

structure Sandbox where
  config : Config
  /-- The environment of the runner. -/
  host : Table String
  /-- The directory of the run. -/
  directory : String

namespace Sandbox

variable (s : Sandbox)

/-- The environment of the program: variables of the runner that are let through, the directory, those of
the configuration and those of the run, each over the ones before. -/
def environment (env : Table String) : Table String :=
  let allowed := s.config.envAllowlist.filterMap fun k => (s.host.get? k).map (k, ·)
  Table.ofList (allowed ++ [("HOME", s.directory)] ++ s.config.env ++ env)

/-! ## The script's file -/

/-- A path below a directory; an absolute path stands for itself. -/
def below (directory name : String) : String :=
  if name.toList.head? = some '/' then name else directory ++ "/" ++ name

/-- The path of the script's file. -/
def entry : String := below s.directory s.config.entryFile

/-- The files before the script is written. -/
def emptyFiles : Files := Files.installed.makeDirectory s.directory 0o755 World.epoch

/-- The files with the script in them, or why it cannot be written. -/
def files (code : String) : Except OsError Files :=
  if s.config.entryFile.toList.contains '\x00' then .error .nullInName
  else s.emptyFiles.write s.directory (ofText s.entry) (ofText code)

/-! ## The program -/

/-- The path of a program that is to run with some arguments and variables, or why it cannot be launched. -/
def locate (fs : Files) (searchPath : String) (argv : List String) (vars : List (String × Var)) :
    Except OsError String := do
  let path ← runnablePath fs s.directory searchPath (argv.headD "")
  if fits argv (vars.map fun (k, v) => (k, v.value.getD "")) then return path else throw .tooManyArguments

/-- The number of the first process. -/
def rootPid : Nat := 4241

/-- The variables of an environment, in its order.  A name ends at the first equals sign, so that several may
have one name. -/
def exported (env : Table String) : List (String × Var) :=
  env.map fun (k, v) =>
    let whole := ofText k ++ "=" ++ ofText v
    let name := Text.before '=' whole
    (name, ⟨some (String.ofList (whole.toList.drop (name.length + 1))), true, false⟩)

/-- The world that a program is started in. -/
def world (fs : Files) : World :=
  { now := 0
    limit := s.config.timeoutMs
    work := 0
    nextTurn := Exec.turnWork
    slices := 0
    output := []
    pipes := #[]
    namedPipes := []
    opened := #[⟨(fs.number? "/dev/null").getD 0, 0, false, true, false, none⟩]
    files := fs
    entries := [{
      pid := rootPid, parent := rootPid - 1, group := rootPid, ending := none
      handles := [.file 0, .console .out, .console .err]
      pending := [], ignored := [], caught := [], suspended := false }]
    nextPid := rootPid + 1
    root := rootPid
    rootEnding := none
    closed := [] }

/-- The process that a program is started in. -/
def process (env : Table String) (program : String) : Process where
  pid := rootPid
  parent := rootPid - 1
  shell := rootPid
  name := ofText program
  args := []
  vars := exported env
  functions := []
  aliases := []
  hashed := []
  status := 0
  fds := [(0, .file 0), (1, .console .out), (2, .console .err)]
  held := []
  directory := s.directory
  logical := s.directory
  umask := 0o022
  niceness := 0
  jobs := []
  lastJob := none
  line := 0
  reached := 0
  limits := []
  command := none
  traps := []
  ignored := []
  fixed := []
  flags := []
  scopes := []
  loops := 0
  calls := 0
  options := (1, none)
  substituted := 0
  kept := none
  buffer := ("", 0)
  writeError := none

/-- How deep the commands of a script may nest, repetitions included. -/
def fuel : Nat := 0x100000000

/-- What happened in a world. -/
def timeline (w : World) : Timeline where
  output := (w.output.reverse.splitBy Chunk.isJoined).flatMap fun joined =>
    (joined.head?.map fun c => (c.time, c.target, joined.flatMap fun d => toBytes d.text)).toList
  exit := w.rootEnding.map fun (time, ending) => (time, match ending with
    | .exited n => Exit.code n
    | .killed n => Exit.signal n)
  closes := fun c => w.closed.lookup c

/-- What a program does with the script, or why it cannot be launched. -/
def launch (code : String) (env : Table String) : Except Notice Timeline :=
  match s.files code with
  | .error why => .error (.writeFailed s.config.entryFile why)
  | .ok fs =>
    let env := s.environment env
    let vars := exported env
    let searchPath := ((vars.lookup "PATH").bind Var.value).getD defaultPath
    let words := s.config.program :: s.config.renderArgs s.entry s.directory
    let argv := words.map ofText
    let isNull (c : Char) : Bool := c = '\x00'
    let data := words ++ env.flatMap fun (k, v) => [k, v]
    match (if data.any (·.toList.any isNull) then .error .nullInData
      else s.locate fs searchPath argv vars) with
    | .error why => .error (.launchFailed s.config.program why)
    | .ok path =>
      let begin (w : World) : Task := (Exec.launch fuel path argv (s.process env s.config.program) w).toTask
      let start : Machine := ⟨s.world fs, [⟨⟨rootPid, .turn, false⟩, begin⟩]⟩
      .ok (timeline (start.run fuel))

end Sandbox

end Flowline.Simulation
