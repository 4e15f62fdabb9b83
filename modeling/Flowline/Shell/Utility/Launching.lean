import Flowline.Shell.Builtin.Control
import Flowline.Shell.Lookup
import Flowline.Shell.Utility.Count
import Flowline.Shell.Utility.Delay
import Flowline.Shell.Utility.Input

/-!
# Programs that run programs

`env`, `nice`, `nohup`, `setsid`, `stdbuf` and `timeout` run another program under other circumstances, `which` finds it and `kill`
sends it signals.  How a program takes the place of a process is given to them as a function that comes back
only with the reason why it cannot.
-/

namespace Flowline.Shell.Exec

section Launching

variable (launch : String → List String → Exec OsError)

/-- Runs a program that is found along the search path in the place of the process. -/
def execute (argv : List String) : Exec OsError := do
  let name := argv.headD ""
  if name = "" then return .notFound
  else if name.toList.contains '/' then launch name argv
  else along argv (trialPaths (searchPath (← get)) name) .notFound
where
  along (argv : List String) : List String → OsError → Exec OsError
    | [], why => return why
    | path :: rest, why => do
      match ← launch path argv with
      | .notFound => along argv rest why
      | .notDirectory => along argv rest why
      | .permissionDenied => along argv rest .permissionDenied
      | e => return e

/-- Ends a program that could not run another one. -/
def endUnlaunched (message : String) (why : OsError) : Exec Unit := do
  complain (message ++ ": " ++ why.text)
  status (if why = .notFound then 127 else 126)

/-- Runs another program, or complains of it. -/
def executeOr (message : String → String) (argv : List String) : Exec Unit := do
  let why ← execute launch argv
  endUnlaunched (message (argv.headD "")) why

/-- Starts a program; its number. -/
def spawn (message : String → String) (argv : List String) : Exec Nat := do
  let p ← get
  fork { p with buffer := ("", 0) } (executeOr launch message argv)

/-- Waits for a child. -/
def awaitChild (pid : Nat) : Exec Ending := do
  if (← world).isRunning pid then pause (.ending pid) false
  let ending := (← world).ending? pid
  changeWorld (·.reap pid)
  return ending.getD (.exited 0)

/-! ## Other circumstances -/

/-- The name and the value that an argument sets. -/
def setting? (a : String) : Option (String × String) :=
  let name := Text.before '=' a
  if name.length < a.length then some (name, String.ofList (a.toList.drop (name.length + 1))) else none

/-- A list of variables with one set, which keeps its first place or comes last. -/
def setInPlace (new : String × String) : List (String × String) → List (String × String)
  | [] => [new]
  | old :: rest => if old.1 = new.1 then new :: rest else old :: setInPlace new rest

/-- The words of a text, as `env -S` takes them apart. -/
def splitWords (text : String) : List String :=
  (Text.split ' ' (String.ofList (text.toList.map fun c => if isSpace c then ' ' else c))).filter (· ≠ "")

def env (args : List String) : Exec Unit :=
  let names := [("ignore-environment", 'i'), ("null", '0'), ("unset", 'u'), ("chdir", 'C'), ("split-string", 'S'), ("debug", 'v')]
  let args := match args with
    | "-S" :: text :: rest => splitWords text ++ rest
    | first :: rest => if "-S".toList.isPrefixOf first.toList
        then splitWords (String.ofList (first.toList.drop 2)) ++ rest else args
    | [] => []
  withArguments { letters := "i0u:C:S:v", names, inFront := true } 125 args fun a => do
    let minus := a.operands.head? = some "-"
    let operands := if minus then a.operands.drop 1 else a.operands
    let settings := operands.takeWhile fun o => (setting? o).isSome
    let command := operands.drop settings.length
    modify fun p =>
      let given := if a.has 'i' || minus then [] else p.environment
      let kept := given.filter fun (k, _) => ! (a.all 'u').contains k
      let all := (settings.filterMap setting?).foldl (fun vars new => setInPlace new vars) kept
      { p with vars := all.map fun (k, v) => (k, ⟨some v, true, false⟩) }
    match (a.all 'u').find? fun name => name = "" || name.toList.contains '=' with
    | some name =>
      complain ("cannot unset " ++ Quotation.always name ++ ": " ++ OsError.invalidArgument.text)
      status 125
    | none =>
      if command.isEmpty then
        let stop := if a.has '0' then "\x00" else "\n"
        print (String.join ((← get).environment.map fun (k, v) => k ++ "=" ++ v ++ stop))
      else if a.has '0' then misuse "cannot specify --null (-0) with command" 125
      else
        let moved ← match a.get? 'C' with
          | none => pure true
          | some d => enter d
        if moved then executeOr launch Quotation.always command
where
  /-- Goes to a directory. -/
  enter (d : String) : Exec Bool := do
    let p ← get
    let fs ← files
    let found : Except OsError String := match fs.find true p.directory d with
      | .error e => .error e
      | .ok name => if fs.isDirectory name then .ok name else .error .notDirectory
    match found with
    | .ok name =>
      set { p with directory := name }
      return true
    | .error e =>
      complain ("cannot change directory to " ++ Quotation.always d ++ ": " ++ e.text)
      status 125
      return false

def nohup (args : List String) : Exec Unit :=
  withArguments { letters := "", inFront := true } 125 args fun a => do
    if a.operands.isEmpty then misuse "missing operand" 125
    else
      modify fun p => { p with ignored := if p.ignored.contains Signal.hup then p.ignored else Signal.hup :: p.ignored }
      executeOr launch (fun name => "failed to run command " ++ Quotation.always name) a.operands

def nice (args : List String) : Exec Unit :=
  -- a number behind a minus sign is an adjustment
  let args := match args with
    | first :: rest =>
      match first.toList with
      | '-' :: cs =>
        let digits := Text.dropSign cs
        if ! digits.isEmpty && digits.all Char.isDigit then "-n" :: String.ofList cs :: rest else args
      | _ => args
    | [] => []
  withArguments { letters := "n:", names := [("adjustment", 'n')], inFront := true } 125 args fun a => do
    match a.get? 'n' with
    | some text =>
      match integer? text with
      | none =>
        complain ("invalid adjustment " ++ Quotation.always text)
        status 125
      | some n => run a.operands (some n)
    | none => run a.operands none
where
  run (operands : List String) (adjustment : Option Int) : Exec Unit := do
    if operands.isEmpty then
      if adjustment.isSome then misuse "a command must be given with an adjustment" 125
      else print (toString (← get).niceness ++ "\n")
    else
      modify fun p => { p with niceness := max (-20) (min 19 (p.niceness + adjustment.getD 10)) }
      executeOr launch Quotation.always operands

def setsid (args : List String) : Exec Unit :=
  withArguments { letters := "cfw", names := [("ctty", 'c'), ("fork", 'f'), ("wait", 'w')], inFront := true } 1 args fun a => do
    if a.operands.isEmpty then misuse "no command specified" 1
    else
      let p ← get
      let isLeader := ((← world).known? p.pid).any fun e => e.group = p.pid
      let body : Exec Unit := do
        let pid := (← get).pid
        changeWorld (·.updateEntry pid fun e => { e with group := pid })
        executeOr launch (fun name => "failed to execute " ++ name) a.operands
      if isLeader || a.has 'f' then
        let pid ← fork p body
        if a.has 'w' then status (← awaitChild pid).status
      else body

def stdbuf (args : List String) : Exec Unit :=
  withArguments { letters := "i:o:e:", names := [("input", 'i'), ("output", 'o'), ("error", 'e')], inFront := true } 125 args
    fun a => do
      if a.operands.isEmpty then misuse "missing operand" 125
      else if a.flags.isEmpty then misuse "you must specify a buffering mode option" 125
      else executeOr launch (fun name => "failed to run command " ++ Quotation.always name) a.operands

/-! ## Limits of time -/

/-- What to do when the time is over. -/
structure Deadline where
  /-- The program in question, and its process. -/
  name : String
  pid : Nat
  signal : Nat
  /-- How long to wait before it is killed. -/
  grace : Option Nat
  foreground : Bool
  verbose : Bool

/-- Sends a signal to the process in question and to all that belong to it. -/
def Deadline.send (d : Deadline) (signal : Nat) : Exec Unit := do
  if d.verbose then
    complain ("sending signal " ++ (Signal.name? signal).getD (toString signal) ++ " to command " ++ Quotation.always d.name)
  let _ ← sendSignal d.pid signal
  if ! d.foreground then
    -- the process itself does not mind what it sends
    modify fun p => { p with traps := (signal, "") :: p.traps.filter (·.1 ≠ signal), ignored := signal :: p.ignored }
    let _ ← sendSignal 0 signal
    if signal ≠ Signal.kill && signal ≠ Signal.cont then
      let _ ← sendSignal d.pid Signal.cont
      let _ ← sendSignal 0 Signal.cont

/-- Waits for the process in question; its end, and whether the time was over before. -/
def Deadline.watch (d : Deadline) : Nat → Option Nat → Bool → Exec (Ending × Bool)
  | 0, _, _ => hang
  | fuel + 1, stop, late => do
    let w ← world
    if ! w.isRunning d.pid then return (← awaitChild d.pid, late)
    let pending := ((w.known? (← get).pid).map Entry.pending).getD []
    match pending with
    | signal :: _ =>
      let own := (← get).pid
      changeWorld (·.updateEntry own fun e => { e with pending := e.pending.filter (· ≠ signal) })
      d.send signal
      d.watch fuel (d.grace.map (w.now + ·)) late
    | [] =>
      match stop with
      | some t =>
        if t ≤ w.now then
          d.send (if late then Signal.kill else d.signal)
          d.watch fuel (if late then none else d.grace.map (w.now + ·)) true
        else
          pause (.endingBefore d.pid t) true
          d.watch fuel stop late
      | none =>
        pause (.ending d.pid) true
        d.watch fuel stop late

def timeout (args : List String) : Exec Unit :=
  let names := [("kill-after", 'k'), ("signal", 's'), ("foreground", 'f'), ("preserve-status", 'p'), ("verbose", 'v')]
  withArguments { letters := "k:s:vfp", names, inFront := true } 125 args fun a => do
    let interval (s : String) : Exec (Option Nat) := do
      match duration? s with
      | some n => return some n
      | none =>
        misuse ("invalid time interval " ++ Quotation.always s) 125
        return none
    let grace ← match a.get? 'k' with
      | none => pure (some none)
      | some s => do pure ((← interval s).map some)
    match grace, a.operands with
    | none, _ => return
    | some grace, length :: name :: rest =>
      match Signal.parse? ((a.get? 's').getD "TERM") with
      | none => misuse (Quotation.always ((a.get? 's').getD "") ++ ": invalid signal") 125
      | some signal =>
        match ← interval length with
        | none => return
        | some ms => run a grace signal ms (name :: rest)
    | _, _ =>
      offerHelp
      status 125
where
  run (a : Arguments) (grace : Option Nat) (signal ms : Nat) (argv : List String) : Exec Unit := do
    let foreground := a.has 'f'
    let p ← get
    if ! foreground then changeWorld (·.updateEntry p.pid fun e => { e with group := p.pid })
    let pid ← spawn launch (fun name => "failed to run command " ++ Quotation.always name) argv
    modify fun p => { p with traps := ([Signal.hup, Signal.int, Signal.quit, Signal.term].filter
      (! p.ignored.contains ·)).map (·, "forward") }
    let p ← get
    changeWorld p.sync
    let d : Deadline := ⟨argv.headD "", pid, signal, grace.filter (· ≠ 0), foreground, a.has 'v'⟩
    let now := (← world).now
    let stop := if ms = 0 then none else some (now + ms)
    let (ending, late) ← d.watch manyBlocks stop false
    match ending with
    | .exited n => status (if late && ! a.has 'p' then 124 else n)
    | .killed n =>
      if ! late then
        modify fun p => { p with traps := [] }
        die n
      else status (if a.has 'p' || n = Signal.kill then 128 + n else 124)

end Launching

/-! ## Finding programs -/

def which (args : List String) : Exec Unit := do
  let all := args.head? = some "-a"
  let names := if all then args.drop 1 else args
  status (if names.isEmpty then 1 else 0)
  let p ← get
  let fs ← files
  let isProgram (path : String) : Bool := (fs.lookup? p.directory path).any fun n => ! n.isDirectory && n.isExecutable
  for name in names do
    let paths := if name.toList.contains '/' then [name] else candidates (searchPath p) name
    let found := paths.filter isProgram
    if found.isEmpty then failWith 1
    for path in if all then found else found.take 1 do print (path ++ "\n")

/-- Lists the names of the signals, or gives those that numbers stand for. -/
def listSignals (args : List String) : Exec Unit := do
  status 0
  let names (first count : Nat) : String :=
    String.intercalate " " ((List.range count).filterMap fun i => Signal.name? (first + i))
  if args.isEmpty then print (joinLines [names 1 16, names 17 15])
  for a in args do
    let found? := match a.toNat? with
      | some n => Signal.name? (n % 128)
      | none => (Signal.parse? a).map toString
    match found? with
    | some text => print (text ++ "\n")
    | none =>
      complain ("unknown signal name " ++ a)
      failWith 1

/-- Sends a signal to processes. -/
def killTargets (args : List String) : Exec Unit := do
  let (signal?, targets) := match args with
    | "-s" :: name :: rest => (Signal.parse? name, rest)
    | "--" :: rest => (some Signal.term, rest)
    | first :: rest =>
      match first.toList with
      | '-' :: cs => (Signal.parse? (String.ofList cs), if rest.head? = some "--" then rest.drop 1 else rest)
      | _ => (some Signal.term, args)
    | [] => (some Signal.term, [])
  status 0
  match signal? with
  | none => misuse ("unknown signal " ++ args.headD "") 1
  | some signal =>
    if targets.isEmpty then
      tell 2 "Usage:\n kill [options] <pid> [...]\n"
      status 1
    for t in targets do
      match integer? t with
      | none =>
        complain ("failed to parse argument: " ++ Quotation.always t)
        failWith 1
      | some n =>
        if ! (← sendSignal n signal) then
          complain ("(" ++ t ++ "): " ++ OsError.noProcess.text)
          failWith 1

/-- The `kill` program. -/
def killProgram (args : List String) : Exec Unit :=
  match args with
  | "-l" :: rest => listSignals rest
  | "--list" :: rest => listSignals rest
  | args => killTargets args

end Flowline.Shell.Exec
