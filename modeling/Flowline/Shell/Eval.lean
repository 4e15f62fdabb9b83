import Flowline.Shell.Builtin
import Flowline.Shell.Call
import Flowline.Shell.Redirection

/-!
# Running commands

What a shell does for each command of a script.  Running a program in the place of the shell is left to a
function that is given: it comes back only with the reason why the program cannot be run.
-/

namespace Flowline.Shell

/-- How a command is run. -/
structure Mode where
  /-- Its status is looked at, so that its failure ends no script. -/
  tested : Bool
  /-- The process has nothing more to do after it. -/
  last : Bool

namespace Mode

/-- In the course of a script. -/
def plain : Mode := ⟨false, false⟩

/-- A command whose status is looked at. -/
def condition : Mode := ⟨true, false⟩

/-- With more commands to follow. -/
def inner (m : Mode) : Mode := { m with last := false }

/-- As the last thing that a process does. -/
def final (m : Mode) : Mode := { m with last := true }

end Mode

namespace Exec

/-! ## Parts that run no commands -/

/-- The text that is written before the commands that are shown. -/
def traceStart (capture : Command → Exec String) : Exec String := do
  let p ← get
  let text := (p.value? "PS4").getD ""
  let r := Reading.ofText text 1 []
  match (Parser.documentLine r.fuel ['\x00'] false []).run r with
  | .ok (parts, _) =>
    set { p with flags := p.flags.filter (· ≠ 'x') }
    let shown ← expandText capture .document parts.reverse
    modify fun q => { q with flags := p.flags }
    return shown
  | .error _ => return text

/-- Shows a command on what was the output for errors before its redirections. -/
def trace (capture : Command → Exec String) (target : Option Handle) (words : List String) : Exec Unit := do
  let start ← traceStart capture
  match target with
  | some h =>
    let _ ← writeTo h (start ++ String.intercalate " " words ++ "\n")
  | none => return

/-- The lowest signal that has come and that the shell handles; it counts as handled from now on. -/
def takeSignal : Exec (Option Nat) := do
  let p ← get
  let pending := (((← world).known? p.pid).map Entry.pending).getD []
  match pending with
  | [] => return none
  | n :: ns =>
    let lowest := ns.foldl min n
    changeWorld (·.updateEntry p.pid fun e => { e with pending := e.pending.filter (· ≠ lowest) })
    return some lowest

/-- Runs a program that is found along a path in the place of the shell. -/
def become (launch : String → List String → Exec OsError) (argv : List String) (path : String) : Exec Unit := do
  let name := argv.headD ""
  let rec along : List String → OsError → Exec OsError
    | [], why => return why
    | full :: rest, why => do
      match ← launch full argv with
      | .notFound => along rest why
      | .notDirectory => along rest why
      | e => along rest e
  let p ← get
  set { p with vars := p.exported.map fun (k, v) => (k, ⟨some v, true, false⟩) }
  let why ← if name.toList.contains '/' then launch name argv
    else if name = "" then pure .notFound
    else along (candidates path name) .notFound
  modify fun q => { q with vars := p.vars }
  status (match why with
    | .notFound => 127
    | .notDirectory => 127
    | .nameTooLong => 127
    | .tooManyLinks => 127
    | _ => 126)
  warn (name ++ ": " ++ programRefusal why)
  halt .ended

/-- The values of assignments; each is in place when the next is expanded. -/
def assignEach (capture : Command → Exec String) (isLocal : Bool) :
    List (String × List Part) → Exec (List String)
  | [] => return []
  | (x, word) :: rest => do
    let v ← expandText capture .value word
    if isLocal then
      save x
      declare x (some v) true false
    else assign x v
    return (x ++ "=" ++ v) :: (← assignEach capture isLocal rest)

/-- The status with which a loop goes on after a part of it has stopped early, and whether it ends. -/
def afterStop (h : Halt) : Exec Bool := do
  match h with
  | .broke n => if 1 < n then halt (.broke (n - 1)) else return true
  | .continued n => if 1 < n then halt (.continued (n - 1)) else return false
  | h => halt h

/-- Ends a builtin command: what it has written leaves the process. -/
def closeBuiltin (name : String) : Exec Unit := do
  match ← close with
  | none => return
  | some _ =>
    warn (name ++ ": I/O error")
    modify fun p => { p with status := Nat.lor p.status 1 }

/-- The file that `.` reads: the path, or the first such file along the search path. -/
def scriptPath (name : String) : Exec String := do
  if name.toList.contains '/' then return name
  let p ← get
  let fs ← files
  match (candidates (shellPath p) name).find? fun path =>
      (fs.lookup? p.directory path).any fun n => n.text?.isSome with
  | some path => return path
  | none => abort (name ++ ": not found")

/-- The text of a script. -/
def scriptText (path : String) : Exec String := do
  match ← readPath path with
  | .ok text => return text
  | .error .isDirectory => return ""
  | .error e => abort ("cannot open " ++ path ++ ": " ++ refusal false e)

/-- Shows the lines that have been read, if that is asked for. -/
def echoLines (before after : Reading) : Exec Unit := do
  if (← get).hasFlag 'v' then
    tell 2 (String.ofList (before.chars.take (before.chars.length - after.chars.length)))

/-- Notes that a shell has found a program. -/
def noteProgram (name : String) : Exec Unit := do
  let p ← get
  if ! name.toList.contains '/' && ! p.hashed.contains name then set { p with hashed := name :: p.hashed }

/-- Notes the program that a stage of a pipeline will call. -/
def noteStage (c : Command) : Exec Unit := do
  match c with
  | .simple _ _ (word :: _) _ =>
    match plainText? word with
    | some name =>
      let p ← get
      match lookupCommand p true name with
      | .program =>
        if (findProgram (← files) p.directory (shellPath p) name).isOk then noteProgram name
      | _ => return
    | none => return
  | _ => return

/-- What a process in the background reads. -/
def nullInput : Exec (Option Handle) := do
  match ← openFile "/dev/null" .read with
  | .ok h => return some h
  | .error _ => return none

/-- Whether a loop ends after a part of it has stopped early; before other loops stop, `before` is done. -/
def leaving : Halt → Exec Unit → Exec Bool
  | h, before => do
    match ← attempt (afterStop h) with
    | .ok ends => return ends
    | r =>
      match h with
      | .broke _ => before
      | .continued _ => before
      | _ => pure ()
      modify fun p => { p with loops := p.loops - 1 }
      resume r

/-- What the end of a process makes of a status that was kept. -/
def closing : Except Halt Unit → Exec Unit
  | .error .exited => modify fun p => { p with status := p.kept.getD p.status, kept := none }
  | _ => modify fun p => { p with kept := none }

/-! ## Commands -/

variable (launch : String → List String → Exec OsError)

mutual

/-- Runs a command. -/
def exec : Nat → Mode → Command → Exec Unit
  | 0, _, _ => hang
  | fuel + 1, mode, c => do
    if (← get).hasFlag 'n' then settle fuel mode false
    else match c with
    | .empty => settle fuel mode false
    | .simple line assignments words rs =>
      simple fuel mode line assignments words rs
      settle fuel mode true
    | .pipeline stages background =>
      pipeline fuel mode stages background
      settle fuel mode true
    | .negated body =>
      let r ← attempt (exec fuel .condition body)
      match r with
      | .error .exited => resume r
      | .error .ended => resume r
      | .error .failed => resume r
      | r =>
        modify fun p => { p with status := if p.status = 0 then 1 else 0 }
        resume r
      settle fuel mode false
    | .both first second =>
      exec fuel .condition first
      if (← get).status = 0 then exec fuel mode second else settle fuel mode false
    | .either first second =>
      exec fuel .condition first
      if (← get).status = 0 then settle fuel mode false else exec fuel mode second
    | .sequence first second =>
      exec fuel mode.inner first
      exec fuel mode second
    | .background line body rs =>
      background fuel line body rs
      settle fuel mode false
    | .subshell line body rs =>
      subshell fuel mode line body rs
      settle fuel mode true
    | .redirected line body rs =>
      modify fun p => { p with line }
      let targets ← expandTargets (capture fuel) rs
      keepingFds (targets.map fun (r, _) => r.fd) do
        if ← redirectSafely (capture fuel) true targets then exec fuel mode.inner body
      settle fuel mode false
    | .choose test yes no =>
      exec fuel .condition test
      if (← get).status = 0 then exec fuel mode yes
      else if no.isEmpty then
        status 0
        settle fuel mode false
      else exec fuel mode no
    | .loop negated test body =>
      modify fun p => { p with loops := p.loops + 1 }
      loop fuel mode.inner negated test body 0
      modify fun p => { p with loops := p.loops - 1 }
      settle fuel mode false
    | .each line name words body =>
      modify fun p => { p with line }
      let values ← match words with
        | some ws => expandRest (capture fuel) false ws
        | none => do pure (← get).args
      if values.isEmpty then status 0
      modify fun p => { p with loops := p.loops + 1 }
      forEach fuel mode.inner name values body
      modify fun p => { p with loops := p.loops - 1 }
      settle fuel mode false
    | .select line word branches =>
      modify fun p => { p with line }
      let value ← expandText (capture fuel) .single word
      branch fuel mode value.toList branches
      settle fuel mode false
    | .define name body =>
      modify fun p => { p with
        functions := (name, body) :: p.functions.filter (·.1 ≠ name)
        status := 0 }
      settle fuel mode false

/-- What comes after a command: what is to be done at signals, the end at a failure if that is asked for and
the command is `checked`, and the end of a process that has nothing more to do. -/
def settle : Nat → Mode → Bool → Exec Unit
  | 0, _, _ => hang
  | fuel + 1, mode, checked => do
    let n := (← get).status
    if ← isAlerted then handleSignals fuel
    if checked && ! mode.tested && n ≠ 0 && (← get).hasFlag 'e' then halt .ended
    if mode.last then halt .ended

/-- Does what is to be done at the signals that have come. -/
def handleSignals : Nat → Exec Unit
  | 0 => hang
  | fuel + 1 => do
    let p ← get
    set { p with kept := p.kept.or (some p.status) }
    let r ← attempt (handleEach fuel (p.kept.getD p.status))
    match r with
    | .error .exited => pure ()
    | _ => modify fun q => { q with kept := p.kept }
    resume r

/-- Handles one signal after another and puts back a status after each. -/
def handleEach : Nat → Nat → Exec Unit
  | 0, _ => hang
  | fuel + 1, n => do
    match ← takeSignal with
    | none => return
    | some signal =>
      match (← get).traps.lookup signal with
      | none => handleEach fuel n
      | some action =>
        let r ← attempt (runText fuel .plain action)
        match r with
        | .ok () =>
          status n
          handleEach fuel n
        | .error (.broke _) =>
          status n
          resume r
        | .error (.continued _) =>
          status n
          resume r
        | r => resume r

-- Texts and files

/-- Runs the commands of a text. -/
def runText : Nat → Mode → String → Exec Unit
  | 0, _, _ => hang
  | fuel + 1, mode, text => do
    let before := (← get).reached
    ensuring (runLines fuel mode (Reading.ofText text 1 []) 0) fun p => { p with reached := before }

/-- Runs the commands of the lines that are left of a text; the status is that of the last one. -/
def runLines : Nat → Mode → Reading → Nat → Exec Unit
  | 0, _, _, _ => hang
  | fuel + 1, mode, r, last => do
    match Reading.nextLine { r with aliases := (← get).aliases } with
    | .error (why, line) =>
      modify fun p => { p with line }
      abort ("Syntax error: " ++ why.message)
    | .ok (none, _) => status last
    | .ok (some c, r) =>
      work 1
      modify fun p => { p with reached := r.line }
      exec fuel ⟨mode.tested, mode.last && r.isAtEnd⟩ c
      let p ← get
      runLines fuel mode r (if c.isEmpty then last else p.status)

/-- Runs a file of commands, which a function's end leaves; the status is that of the last command. -/
def runFile : Nat → String → Exec Unit
  | 0, _ => hang
  | fuel + 1, text => do
    let before := (← get).reached
    let r ← attempt (runFileLines fuel (Reading.ofText text 1 []) 0)
    modify fun p => { p with reached := before }
    match r with
    | .error .returned => return
    | r => resume r

/-- Runs the lines that are left of a file. -/
def runFileLines : Nat → Reading → Nat → Exec Unit
  | 0, _, _ => hang
  | fuel + 1, r, last => do
    match Reading.nextLine { r with aliases := (← get).aliases } with
    | .error (why, line) =>
      modify fun p => { p with line }
      abort ("Syntax error: " ++ why.message)
    | .ok (none, after) =>
      echoLines r after
      status last
    | .ok (some c, after) =>
      echoLines r after
      work 1
      if (← get).hasFlag 'n' then runFileLines fuel after last
      else
        modify fun p => { p with reached := after.line }
        exec fuel .plain c
        let p ← get
        runFileLines fuel after (if c.isEmpty then last else p.status)

-- Processes

/-- All that a process does: some part of a script, and then what is to be done at the end. -/
def finishing : Nat → Exec Unit → Exec Unit
  | 0, _ => hang
  | fuel + 1, body => do
    closing (← attempt body)
    let p ← get
    match p.traps.lookup 0 with
    | none => return
    | some action =>
      set { p with traps := p.traps.filter (·.1 ≠ 0), loops := 0, kept := some p.status }
      match ← attempt (runText fuel .plain action) with
      | .error .failed => closing (.error .failed)
      | .error .ended => closing (.error .ended)
      | _ => closing (.error .exited)

/-- The output of a command without the line feeds at its end. -/
def capture : Nat → Command → Exec String
  | 0, _ => hang
  | fuel + 1, c => do
    if c.isEmpty then return ""
    let n ← withWorld World.newPipe
    let number ← newJob
    let p ← get
    let _ ← start number ((childOf p).bind 1 (some (.writer n))) (finishing fuel (exec fuel ⟨false, true⟩ c))
    modify fun q => { q with held := .reader n :: q.held }
    let text ← readToEnd (.reader n) manyBlocks []
    modify fun q => { q with held := p.held }
    finishJob number
    modify fun q => { q with substituted := q.status, status := p.status }
    let text := match text with
      | .ok s => s
      | .error _ => ""
    let cs := text.toList.filter (· ≠ '\x00')
    return String.ofList (cs.reverse.dropWhile (· = '\n')).reverse

/-- Runs a command in a process of its own. -/
def subshell : Nat → Mode → Nat → Command → List Redirect → Exec Unit
  | 0, _, _, _, _ => hang
  | fuel + 1, mode, line, body, rs => do
    modify fun p => { p with line }
    let targets ← expandTargets (capture fuel) rs
    let work : Exec Unit := do
      redirectAll (capture fuel) false targets
      exec fuel mode.final body
    let p ← get
    if mode.last && ! p.hasTraps then work else inChild id (finishing fuel work)

/-- Starts a command and does not wait for it. -/
def background : Nat → Nat → Command → List Redirect → Exec Unit
  | 0, _, _, _ => hang
  | fuel + 1, line, body, rs => do
    modify fun p => { p with line }
    let targets ← expandTargets (capture fuel) rs
    let number ← newJob
    let p ← get
    let null ← nullInput
    let pid ← start number (backgroundOf (childOf p) null) (finishing fuel do
      redirectAll (capture fuel) false targets
      exec fuel ⟨false, true⟩ body)
    modify fun p => { p with lastJob := some pid, status := 0 }

/-- Runs the stages of a pipeline side by side. -/
def pipeline : Nat → Mode → List Command → Bool → Exec Unit
  | 0, _, _, _ => hang
  | fuel + 1, mode, cs, background => do
    let number ← newJob
    let null ← if background then nullInput else pure none
    stages fuel mode number background null none cs
    if background then status 0 else finishJob number

/-- Starts the stages of a pipeline from some on; the first of these reads from a pipe if one is given. -/
def stages : Nat → Mode → Nat → Bool → Option Handle → Option Nat → List Command → Exec Unit
  | 0, _, _, _, _, _, _ => hang
  | _, _, _, _, _, _, [] => return
  | fuel + 1, mode, number, background, null, input, c :: rest => do
    noteStage c
    let output ← if rest.isEmpty then pure none else some <$> withWorld World.newPipe
    let p ← get
    let child := if background then backgroundOf (childOf p) null else childOf p
    let child := match input with
      | some n => child.bind 0 (some (.reader n))
      | none => child
    let child := match output with
      | some n => child.bind 1 (some (.writer n))
      | none => child
    let pid ← start number child (finishing fuel (exec fuel mode.final c))
    modify fun q => { q with
      held := (output.map Handle.reader).toList ++ p.held.filter fun h => some h ≠ input.map Handle.reader }
    if background then modify fun q => { q with lastJob := some pid }
    stages fuel mode number background none output rest

-- Compound commands

/-- Repeats a body while its test holds, or fails if `negated`; the status is that of the last body. -/
def loop : Nat → Mode → Bool → Command → Command → Nat → Exec Unit
  | 0, _, _, _, _, _ => hang
  | fuel + 1, mode, negated, test, body, last => do
    work 1
    match ← attempt (exec fuel .condition test) with
    | .error h =>
      let ends ← leaving h (status last)
      if ends then status last else loop fuel mode negated test body last
    | .ok () =>
      if ((← get).status = 0) = negated then status last
      else
        match ← attempt (exec fuel mode body) with
        | .error h =>
          let ends ← leaving h (pure ())
          if ends then return else loop fuel mode negated test body (← get).status
        | .ok () => loop fuel mode negated test body (← get).status

/-- Runs a body for each of some values. -/
def forEach : Nat → Mode → String → List String → Command → Exec Unit
  | 0, _, _, _, _ => hang
  | _, _, _, [], _ => return
  | fuel + 1, mode, name, v :: vs, body => do
    work 1
    assign name v
    match ← attempt (exec fuel mode body) with
    | .error h =>
      let ends ← leaving h (pure ())
      if ends then return else forEach fuel mode name vs body
    | .ok () => forEach fuel mode name vs body

/-- Runs the first branch with a pattern that matches. -/
def branch : Nat → Mode → List Char → List (List (List Part) × Command) → Exec Unit
  | 0, _, _, _ => hang
  | _, _, _, [] => status 0
  | fuel + 1, mode, value, (patterns, body) :: rest => do
    if ← matchesAny fuel value patterns then
      if body.isEmpty then status 0 else exec fuel mode body
    else branch fuel mode value rest

/-- Whether one of some patterns matches; those behind it are not expanded. -/
def matchesAny : Nat → List Char → List (List Part) → Exec Bool
  | 0, _, _ => hang
  | _, _, [] => return false
  | fuel + 1, value, word :: rest => do
    if (← expandPattern (capture fuel) word).matchesAll value then return true
    else matchesAny fuel value rest

-- Simple commands

def simple : Nat → Mode → Nat → List (String × List Part) → List (List Part) → List Redirect → Exec Unit
  | 0, _, _, _, _, _ => hang
  | fuel + 1, mode, line, assignments, words, rs => do
    work 1
    modify fun p => { p with line, substituted := 0 }
    let call ← callOf (capture fuel) words
    let name := call.fields.headD ""
    let isExec := name = "exec" && call.special.isSome
    let target := (← get).handle? 2
    let targets ← expandTargets (capture fuel) rs
    let isLocal := ! call.fields.isEmpty && call.special ≠ some true
    let body : Exec Unit := do
      if ! (← redirectSafely (capture fuel) true targets) then
        if call.special = some true then halt .failed
      else
        let shown ← assignEach (capture fuel) isLocal assignments
        if isExec && 1 < call.fields.length then
          for (x, _) in assignments do declare x none true false
        if (← get).hasFlag 'x' then trace (capture fuel) target (shown ++ call.shown)
        match call.fields with
        | [] =>
          modify fun p => { p with status := p.substituted }
        | name :: args => perform fuel mode call name args
    let body : Exec Unit := if isLocal then withLocals body else body
    if targets.isEmpty then body
    else if isExec then body
    else keepingFds (targets.map fun (r, _) => r.fd) body

/-- Runs what a call names. -/
def perform : Nat → Mode → Call → String → List String → Exec Unit
  | 0, _, _, _, _ => hang
  | fuel + 1, mode, call, name, args => do
    let p ← get
    match lookupCommand p call.functions name with
    | .function body => callFunction fuel mode body args
    | .builtin =>
      match ← attempt (runBuiltin fuel mode name args) with
      | .error .failed => if call.special = some true then halt .failed
      | r => resume r
    | .program =>
      let path := call.path.getD (shellPath p)
      let fs ← files
      match if name.toList.contains '/' then .ok name else findProgram fs p.directory path name with
      | .error e =>
        warn (name ++ ": " ++ programRefusal e)
        status 127
      | .ok _ =>
        noteProgram name
        let run := become launch (name :: args) path
        if mode.last && ! p.hasTraps then run else inChild id run

def callFunction : Nat → Mode → Command → List String → Exec Unit
  | 0, _, _, _ => hang
  | fuel + 1, mode, body, args => do
    let p ← get
    if 1000 ≤ p.calls then abort "Maximum function recursion depth (1000) reached"
    set { p with args, loops := 0, calls := p.calls + 1, options := (1, none) }
    let r ← attempt (exec fuel mode.inner body)
    modify fun q => { q with args := p.args, loops := p.loops, calls := p.calls, options := p.options }
    match r with
    | .error .returned => return
    | r => resume r

/-- Runs a command of the shell. -/
def runBuiltin : Nat → Mode → String → List String → Exec Unit
  | 0, _, _, _ => hang
  | fuel + 1, mode, name, args => do
    let outer := (← get).command
    modify fun p => { p with command := some name }
    let r ← attempt (builtin fuel mode name args)
    if r.isOk then closeBuiltin name else flush
    modify fun p => { p with command := outer }
    resume r

def builtin : Nat → Mode → String → List String → Exec Unit
  | 0, _, _, _ => hang
  | fuel + 1, mode, name, args => do
    match name with
    | "eval" =>
      let (_, args) ← splitOptions "" args
      if args.isEmpty then status 0
      else runText fuel mode.inner (String.intercalate " " args)
    | "." =>
      let (_, args) ← splitOptions "" args
      match args with
      | [] => status 0
      | file :: _ =>
        let path ← scriptPath file
        let text ← scriptText path
        modify fun p => { p with command := some path }
        runFile fuel text
    | "exec" =>
      if args.isEmpty then status 0
      else become launch args (shellPath (← get))
    | name =>
      match builtin? name with
      | some run => run args
      | none => status 0

end

/-! ## Shells -/

/-- Makes the process a new shell, with the environment of the old one. -/
def renew (name : String) : Exec Unit :=
  modify fun p =>
    let directory := match p.value? "PWD" with
      | some d => if d.toList.head? = some '/' && Files.resolve "/" d = p.logical then d else p.directory
      | none => p.directory
    { p with
      shell := p.pid
      name
      args := []
      vars := initialVars p.exported directory p.parent
      functions := []
      aliases := []
      hashed := []
      status := 0
      logical := directory
      jobs := []
      lastJob := none
      line := 0
      reached := 0
      command := none
      traps := []
      fixed := p.ignored
      flags := []
      scopes := []
      loops := 0
      calls := 0
      options := (1, none)
      substituted := 0
      kept := none
      buffer := ("", 0)
      writeError := none }

/-- The options in front of a shell's arguments; whether the next argument holds commands, and the others. -/
def shellFlags : Nat → Bool → List String → Exec (Bool × List String)
  | 0, commands, args => return (commands, args)
  | _, commands, [] => return (commands, [])
  | fuel + 1, commands, a :: args => do
    let letters (on : Bool) (cs : List Char) : Exec (Bool × List String) := do
      let args ← setLetters on (cs.filter fun c => c ≠ 'c' && c ≠ 'l') args
      shellFlags fuel (commands || cs.contains 'c') args
    match a.toList with
    | ['-'] => return (commands, args)
    | ['-', '-'] => return (commands, args)
    | '-' :: cs => letters true cs
    | '+' :: cs => letters false cs
    | _ => return (commands, a :: args)

/-- Runs a shell with its arguments, the first of which is its name. -/
def shell (fuel : Nat) (argv : List String) : Exec Unit := do
  let name := argv.headD "sh"
  renew name
  finishing launch fuel do
    let (commands, args) ← shellFlags (argv.length + 1) false (argv.drop 1)
    disownTerminal
    if commands then
      match args with
      | [] => abort "-c requires an argument"
      | text :: args =>
        modify fun p => { p with name := args.headD name, args := args.drop 1 }
        let more := (← get).hasFlag 's'
        runText launch fuel ⟨false, ! more⟩ text
        if more then readScript
    else if args.isEmpty || (← get).hasFlag 's' then
      modify fun p => { p with args, flags := if p.flags.contains 's' then p.flags else 's' :: p.flags }
      readScript
    else
      let file := args.headD ""
      let text ← scriptText file
      modify fun p => { p with name := file, args := args.drop 1 }
      runFile launch fuel text
where
  /-- Runs the commands that come on the standard input. -/
  readScript : Exec Unit := do
    match ← readAll 0 with
    | .ok text => runFile launch fuel text
    | .error _ => return

end Exec

end Flowline.Shell
