import Flowline.Shell.Sed
import Flowline.Shell.Utility.Input
import Flowline.Shell.Utility.Tree

/-!
# Editing streams

`sed`: the lines of some inputs go one by one through a script.
-/

namespace Flowline.Shell.Sed

/-! ## Lines to come -/

/-- The inputs that are left: the one that is being read, what of it has been read already, and the others. -/
structure Feed where
  current : Option (Handle × String)
  ready : List String
  /-- The beginning of a line. -/
  carry : String
  rest : List String

/-- Something that follows the current line. -/
inductive Queued
  | text (s : String)
  | file (path : String)
  | line (path : String)

structure State where
  pattern : String
  held : String
  /-- The end of the current line is there. -/
  isEnded : Bool
  line : Nat
  name : String
  feed : Feed
  queue : List Queued
  changed : Bool
  /-- The steps whose ranges are open, with the lines at which they end. -/
  active : List (Nat × Nat)
  lastRegex : Option (Regex × Bool)
  /-- The last line that was written lacks its end. -/
  isOpen : Bool
  targets : List (String × Handle)
  /-- The files whose lines are added one by one, and what is left of them. -/
  sources : List (String × List String)
  /-- What takes the place of the file that is edited, the last part first. -/
  edited : Option (List String)

/-- How a script is run. -/
structure Manner where
  script : Script
  quiet : Bool
  /-- Each file has a last line of its own. -/
  separate : Bool
  /-- Files are changed; copies of them get names made from this. -/
  inPlace : Option String
  stop : Char
  width : Nat
  /-- Every line leaves at once. -/
  prompt : Bool

abbrev Edit := StateT State Exec

/-- Ends the program with a message. -/
def die {α : Type} (message : String) (code : Nat) : Exec α := do
  Exec.flush
  Exec.interject message
  Exec.status code
  Exec.halt .ended

/-! ## Reading -/

/-- Opens the next input that can be opened. -/
def openNext (m : Manner) : List String → Exec (Option (Handle × String) × List String)
  | [] => return (none, [])
  | name :: rest => do
    let isDirectory ← if name = "-" && m.inPlace.isNone then pure false
      else do pure ((← Exec.nodeAt? true name).any Node.isDirectory)
    if m.inPlace.isSome && isDirectory then die ("couldn't edit " ++ name ++ ": not a regular file") 4
    match ← if m.inPlace.isSome then Exec.openFile name .read else Exec.openInput name with
    | .error e =>
      Exec.interject ("can't read " ++ name ++ ": " ++ e.text)
      Exec.failWith 2
      openNext m rest
    | .ok h =>
      keep h
      return (some (h, name), rest)
where
  keep (h : Handle) : Exec Unit := Exec.modify fun p => { p with held := h :: p.held }

/-- Has a line ready, if there is one in the current input. -/
def prepareHere (m : Manner) : Nat → Feed → Exec Feed
  | 0, f => return f
  | fuel + 1, f => do
    match f.current, f.ready with
    | _, _ :: _ => return f
    | none, [] => return f
    | some (h, name), [] =>
      match ← Exec.readFrom h Exec.blockSize false with
      | .error e => die ("read error on " ++ name ++ ": " ++ e.text) 4
      | .ok "" => return f
      | .ok block =>
        match Text.split m.stop (f.carry ++ block) with
        | [] => return f
        | pieces => prepareHere m fuel { f with ready := pieces.dropLast, carry := pieces.getLast?.getD "" }

/-- Closes the current input. -/
def leaveInput (f : Feed) : Exec Feed := do
  match f.current with
  | some (h, _) =>
    Exec.modify fun p => { p with held := p.held.erase h }
    return { f with current := none }
  | none => return f

/-- Whether there is one more line in the current input. -/
def hasMoreHere (m : Manner) : Edit Bool := do
  let f ← prepareHere m Exec.manyBlocks (← get).feed
  modify fun s => { s with feed := f }
  return ! f.ready.isEmpty || f.carry ≠ ""

/-- Puts the changed file in the place of the old one. -/
def finishFile (m : Manner) : Edit Unit := do
  let s ← get
  match s.edited, s.feed.current, m.inPlace with
  | some parts, some (_, name), some suffix =>
    let text := String.join parts.reverse
    let p ← Exec.get
    let w ← Exec.world
    match w.files.find true p.directory name with
    | .error _ => pure ()
    | .ok full =>
      let old := w.files.node? full
      if suffix ≠ "" then
        let copy := if suffix.toList.contains '*' then
            let last := Files.lastPart full
            Files.parent full ++ "/" ++ Text.replace suffix "*" last
          else full ++ suffix
        match old with
        | some n => Exec.changeFiles fun fs => (fs.remove copy).insert copy n
        | none => pure ()
      Exec.changeFiles fun fs => (fs.remove full).insert full
        ⟨.text text, (old.map Node.mode).getD 0o644, w.clock, 0⟩
    set { s with edited := none, isOpen := false }
  | _, _, _ => return

/-- Whether there is one more line, in this input or in another. -/
def hasMore (m : Manner) : Nat → Edit Bool
  | 0 => return false
  | fuel + 1 => do
    if ← hasMoreHere m then return true
    if m.separate then return false
    let s ← get
    if s.feed.rest.isEmpty then return false
    let f ← leaveInput s.feed
    let (current, rest) ← openNext m f.rest
    set { s with feed := { f with current, rest } }
    hasMore m fuel

/-- The next line, as the current one. -/
def readLine (m : Manner) : Nat → Edit (Option String)
  | 0 => return none
  | fuel + 1 => do
    if ← hasMoreHere m then
      let s ← get
      match s.feed.ready with
      | l :: ready =>
        set { s with feed := { s.feed with ready }, line := s.line + 1, isEnded := true, name := nameOf s }
        return some l
      | [] =>
        let l := s.feed.carry
        set { s with feed := { s.feed with carry := "" }, line := s.line + 1, isEnded := false, name := nameOf s }
        return some l
    else
      finishFile m
      let s ← get
      if s.feed.rest.isEmpty then return none
      let f ← leaveInput s.feed
      let (current, rest) ← openNext m f.rest
      set { s with
        feed := { f with current, rest }
        line := if m.separate then 0 else s.line
        edited := if m.inPlace.isSome && current.isSome then some [] else none }
      if current.isNone then return none
      readLine m fuel
where
  nameOf (s : State) : String := (s.feed.current.map Prod.snd).getD s.name

/-! ## Writing -/

/-- Writes some text as it is. -/
def emit (text : String) : Edit Unit := do
  let s ← get
  match s.edited with
  | some parts => set { s with edited := some (text :: parts) }
  | none => Exec.print text

/-- Ends the last line if that lacks its end. -/
def endLine (m : Manner) : Edit Unit := do
  if (← get).isOpen then
    modify fun s => { s with isOpen := false }
    emit (String.ofList [m.stop])

/-- Writes a line; at the end of an input without a line feed it lacks one, too. -/
def writeLine (m : Manner) (line : String) : Edit Unit := do
  endLine m
  let s ← get
  if s.isEnded then emit (line ++ String.ofList [m.stop])
  else
    emit line
    modify fun s => { s with isOpen := true }
  if m.prompt then Exec.flush

/-- Writes lines that are no lines of the input. -/
def writeText (m : Manner) (text : String) : Edit Unit := do
  endLine m
  emit text

def writeTo (m : Manner) (t : Target) (line : String) : Edit Unit := do
  match t with
  | .out => writeLine m line
  | .err => Exec.tell 2 (line ++ String.ofList [m.stop])
  | .file path =>
    match (← get).targets.lookup path with
    | some h =>
      let _ ← Exec.writeTo h (line ++ if (← get).isEnded then String.ofList [m.stop] else "")
    | none => return

/-- The next line of a file that is added line by line. -/
def sourceLine (path : String) : Edit (Option String) := do
  let s ← get
  let lines ← match s.sources.lookup path with
    | some ls => pure ls
    | none =>
      match ← Exec.readPath path with
      | .ok text => pure (splitLines text)
      | .error _ => pure []
  modify fun s => { s with sources := (path, lines.drop 1) :: s.sources.filter (·.1 ≠ path) }
  return lines.head?

/-- Writes what follows the current line. -/
def writeQueue (m : Manner) : Edit Unit := do
  let queue := (← get).queue
  if ! queue.isEmpty then
    modify fun s => { s with queue := [] }
    for q in queue.reverse do
      match q with
      | .text s => writeText m s
      | .file path =>
        let text ← if path = "/dev/stdin" then Exec.readAll 0 else Exec.readPath path
        match text with
        | .ok "" => pure ()
        | .ok s => writeText m s
        | .error _ => pure ()
      | .line path =>
        match ← sourceLine path with
        | some l => writeText m (l ++ String.ofList [m.stop])
        | none => pure ()

/-! ## Selecting lines -/

/-- Whether the current line matches. -/
def holds (p : Pattern) : Edit Bool := do
  let last := (← get).lastRegex
  let r? := (p.regex.map (·, p.fold)).or last
  match r? with
  | none => die "-e expression #1, char 0: no previous regular expression" 1
  | some (r, fold) =>
    modify fun s => { s with lastRegex := some (r, fold) }
    return r.isIn fold (← get).pattern

def isLast (m : Manner) : Edit Bool := do return ! (← hasMore m Exec.manyBlocks)

def matchesAddress (m : Manner) : Address → Edit Bool
  | .line n => do return (← get).line = n
  | .last => isLast m
  | .matching p => holds p
  | .every first step => do
    let line := (← get).line
    return first ≤ line && (line - first) % step = 0

/-- Marks of ranges that end at no known line. -/
def noLine : Nat := 0

/-- Whether a step applies to the current line. -/
def selects (m : Manner) (i : Nat) (s : Step) : Edit Bool := do
  match s.first, s.second with
  | none, _ => return true
  | some a, none => matchesAddress m a
  | some a, some b =>
    let line := (← get).line
    let close : Edit Unit := modify fun t => { t with active := t.active.filter (·.1 ≠ i) }
    let ended (b : Bound) : Edit Bool :=
      match b with
      | .last => isLast m
      | .matching p => holds p
      | _ => return false
    match (← get).active.lookup i with
    | some stop =>
      if stop ≠ noLine then
        if stop ≤ line then close
        return line ≤ stop
      if ← ended b then close
      return true
    | none =>
      if ! (← matchesAddress m a) then return false
      let mark (stop : Nat) : Edit Unit := modify fun t => { t with active := (i, stop) :: t.active }
      match b with
      | .line n => if line < n then mark n
      | .after n => if 0 < n then mark (line + n)
      | .multiple n => if 0 < n && line % n ≠ 0 then mark ((line / n + 1) * n)
      | _ => mark noLine
      return true

/-! ## Running scripts -/

/-- How a run through the script ends. -/
inductive After
  | done
  /-- The script starts again with what is left of the line. -/
  | restart
  | quit

/-- A character as it is shown where every one has to be seen. -/
def shownChar (c : Char) : String :=
  match c with
  | '\\' => "\\\\"
  | c => if Quotation.isPrintable c then String.ofList [c] else Quotation.escape c

/-- Characters as they are shown, broken into lines of a width. -/
def brokenText (width : Nat) (shown : List String) : String :=
  let (text, _) := shown.foldl (fun (text, column) s =>
    if 0 < width && width - 1 < column + s.length then (text ++ "\\\n" ++ s, s.length)
    else (text ++ s, column + s.length)) ("", 0)
  text ++ "$\n"

/-- The first line of some text, and what follows it. -/
def firstLine (stop : Char) (s : String) : String × Option String :=
  let first := Text.before stop s
  (first, if first.length < s.length then some (String.ofList (s.toList.drop (first.length + 1))) else none)

/-- The end of a run through the script. -/
def finishLine (m : Manner) (print : Bool) : Edit Unit := do
  if print && ! m.quiet then writeLine m (← get).pattern
  writeQueue m

def substitute (m : Manner) (s : Substitution) : Edit Unit := do
  let last := (← get).lastRegex
  let r? := (s.pattern.regex.map (·, s.pattern.fold)).or last
  match r? with
  | none => die "-e expression #1, char 0: no previous regular expression" 1
  | some (r, fold) =>
    modify fun t => { t with lastRegex := some (r, fold) }
    let line := (← get).pattern
    let (cs, changed) := replace fold r s.pieces s.all (line.length + 2) s.number none (Regex.start line)
    if changed then
      let text := String.ofList cs
      modify fun t => { t with pattern := text, changed := true }
      if 0 < s.print then writeLine m text
      match s.target with
      | some t => writeTo m t text
      | none => pure ()

/-- The steps from a position on. -/
def run (m : Manner) : Nat → Nat → Edit After
  | 0, _ => return .quit
  | fuel + 1, i => do
    match m.script.steps[i]? with
    | none =>
      finishLine m true
      return .done
    | some step =>
      if (← selects m i step) = step.negated then
        match step.action with
        | .enter => run m fuel ((m.script.groups.lookup i).getD i + 1)
        | _ => run m fuel (i + 1)
      else
        match step.action with
        | .jump changed name =>
          let now := (← get).changed
          let jumps := changed.all (· = now)
          if changed.isSome then modify fun s => { s with changed := false }
          if jumps then
            Exec.work 1
            run m fuel (if name = "" then m.script.steps.size else (m.script.labels.lookup name).getD 0)
          else run m fuel (i + 1)
        | .substitute s =>
          substitute m s
          run m fuel (i + 1)
        | .print =>
          writeLine m (← get).pattern
          run m fuel (i + 1)
        | .printFirst =>
          writeText m ((firstLine m.stop (← get).pattern).1 ++ String.ofList [m.stop])
          run m fuel (i + 1)
        | .number =>
          writeText m (toString (← get).line ++ "\n")
          run m fuel (i + 1)
        | .fileName =>
          writeText m ((← get).name ++ "\n")
          run m fuel (i + 1)
        | .list width =>
          writeText m (brokenText (width.getD m.width) ((← get).pattern.toList.map shownChar))
          run m fuel (i + 1)
        | .delete =>
          finishLine m false
          return .done
        | .deleteFirst =>
          match (firstLine m.stop (← get).pattern).2 with
          | none =>
            finishLine m false
            return .done
          | some rest =>
            modify fun s => { s with pattern := rest }
            finishLine m false
            return .restart
        | .quit print n =>
          if print then finishLine m true
          Exec.status n
          return .quit
        | .next =>
          if ← isLast m then
            finishLine m true
            return .quit
          finishLine m true
          match ← readLine m Exec.manyBlocks with
          | some l => modify fun s => { s with pattern := l }
          | none => return .quit
          run m fuel (i + 1)
        | .joinNext =>
          if ← isLast m then
            finishLine m true
            return .quit
          writeQueue m
          match ← readLine m Exec.manyBlocks with
          | some l => modify fun s => { s with pattern := s.pattern ++ String.ofList [m.stop] ++ l }
          | none => return .quit
          run m fuel (i + 1)
        | .hold append =>
          modify fun s => { s with held := if append then s.held ++ String.ofList [m.stop] ++ s.pattern else s.pattern }
          run m fuel (i + 1)
        | .fetch append =>
          modify fun s => { s with pattern := if append then s.pattern ++ String.ofList [m.stop] ++ s.held else s.held }
          run m fuel (i + 1)
        | .swap =>
          modify fun s => { s with pattern := s.held, held := s.pattern }
          run m fuel (i + 1)
        | .clear =>
          modify fun s => { s with pattern := "" }
          run m fuel (i + 1)
        | .exchange table =>
          modify fun s => { s with pattern := String.ofList (s.pattern.toList.map fun c => (table.lookup c).getD c) }
          run m fuel (i + 1)
        | .after text =>
          modify fun s => { s with queue := .text text :: s.queue }
          run m fuel (i + 1)
        | .before text =>
          writeText m text
          run m fuel (i + 1)
        | .change text =>
          let isOpen := ((← get).active.lookup i).isSome
          if step.second.isNone || step.negated || ! isOpen then writeText m text
          finishLine m false
          return .done
        | .insert line path =>
          modify fun s => { s with queue := (if line then .line path else .file path) :: s.queue }
          run m fuel (i + 1)
        | .write first t =>
          let line := (← get).pattern
          writeTo m t (if first then (firstLine m.stop line).1 else line)
          run m fuel (i + 1)
        | .enter => run m fuel (i + 1)
        | .leave => run m fuel (i + 1)
        | .label => run m fuel (i + 1)
        | .nothing => run m fuel (i + 1)

/-- One run through the script after another. -/
def cycles (m : Manner) : Nat → Bool → Edit Unit
  | 0, _ => return
  | fuel + 1, again => do
    Exec.work 1
    let goesOn ← if again then pure true
      else
        match ← readLine m Exec.manyBlocks with
        | some l =>
          modify fun s => { s with pattern := l, changed := false }
          pure true
        | none => pure false
    if goesOn then
      match ← run m Exec.manyBlocks 0 with
      | .done => cycles m fuel false
      | .restart => cycles m fuel true
      | .quit => return

/-- The lines of the current input that are left. -/
def restOfInput (m : Manner) : Nat → List String → Edit (List String)
  | 0, found => return found.reverse
  | fuel + 1, found => do
    if ← hasMoreHere m then
      let s ← get
      match s.feed.ready with
      | l :: ready =>
        set { s with feed := { s.feed with ready } }
        restOfInput m fuel ((l ++ String.ofList [m.stop]) :: found)
      | [] =>
        set { s with feed := { s.feed with carry := "" } }
        restOfInput m fuel (s.feed.carry :: found)
    else return found.reverse

end Flowline.Shell.Sed

namespace Flowline.Shell.Exec

open Sed

/-- A part of a script: its text, and the file that it comes from. -/
structure ScriptPart where
  text : List Char
  file : Option String

/-- Where a position in the parts of a script lies. -/
def placeOf : List ScriptPart → Nat → Nat → String
  | [], expression, position => "-e expression #" ++ toString expression ++ ", char " ++ toString position
  | part :: rest, expression, position =>
    if part.text.length < position && ! rest.isEmpty then
      placeOf rest (if part.file.isNone then expression + 1 else expression) (position - part.text.length - 1)
    else
      match part.file with
      | none => "-e expression #" ++ toString expression ++ ", char " ++ toString position
      | some file =>
        let line := 1 + ((part.text.take (position - 1)).filter (· = '\n')).length
        "file " ++ file ++ " line " ++ toString line

/-- What the program tells of its use, but for the addresses in its last two lines. -/
def sedUsage : String := joinLines [
  "Usage: sed [OPTION]... \x7bscript-only-if-no-other-script\x7d [input-file]...",
  "",
  "  -n, --quiet, --silent",
  "                 suppress automatic printing of pattern space",
  "      --debug",
  "                 annotate program execution",
  "  -e script, --expression=script",
  "                 add the script to the commands to be executed",
  "  -f script-file, --file=script-file",
  "                 add the contents of script-file to the commands to be executed",
  "  --follow-symlinks",
  "                 follow symlinks when processing in place",
  "  -i[SUFFIX], --in-place[=SUFFIX]",
  "                 edit files in place (makes backup if SUFFIX supplied)",
  "  -l N, --line-length=N",
  "                 specify the desired line-wrap length for the \x60l' command",
  "  --posix",
  "                 disable all GNU extensions.",
  "  -E, -r, --regexp-extended",
  "                 use extended regular expressions in the script",
  "                 (for portability use POSIX -E).",
  "  -s, --separate",
  "                 consider files as separate rather than as a single,",
  "                 continuous long stream.",
  "      --sandbox",
  "                 operate in sandbox mode (disable e/r/w commands).",
  "  -u, --unbuffered",
  "                 load minimal amounts of data from the input files and flush",
  "                 the output buffers more often",
  "  -z, --null-data",
  "                 separate lines by NUL characters",
  "      --help     display this help and exit",
  "      --version  output version information and exit",
  "",
  "If no -e, --expression, -f, or --file option is given, then the first",
  "non-option argument is taken as the sed script to interpret.  All",
  "remaining arguments are names of input files; if no input files are",
  "specified, then the standard input is read.",
  ""]

/-- The parts of a script that the options give. -/
def scriptParts : List (Char × String) → Exec (List ScriptPart)
  | [] => return []
  | ('e', text) :: rest => do return ⟨text.toList, none⟩ :: (← scriptParts rest)
  | ('f', file) :: rest => do
    match ← if file = "-" then readAll 0 else readPath file with
    | .ok text =>
      let cs := text.toList
      return ⟨if cs.getLast? = some '\n' then cs.dropLast else cs, some file⟩ :: (← scriptParts rest)
    | .error e => Sed.die ("couldn't open file " ++ file ++ ": " ++ e.text) 4
  | _ :: rest => scriptParts rest

/-- The files that a script writes, opened. -/
def openTargets : List String → Exec (List (String × Handle))
  | [] => return []
  | path :: rest => do
    match ← openFile path .write with
    | .ok h =>
      modify fun p => { p with held := h :: p.held }
      return (path, h) :: (← openTargets rest)
    | .error e => Sed.die ("couldn't open file " ++ path ++ ": " ++ e.text) 4

/-- Gives back what has been read of a file that others read as well, and not used. -/
def returnUnused (f : Feed) : Exec Unit := do
  match f.current with
  | some (.file n, "-") =>
    let unused := String.join (f.ready.map (· ++ "\n")) ++ f.carry
    if unused ≠ "" then
      let w ← world
      match w.opened[n]? with
      | some o => changeWorld (·.moveTo n (o.place - unused.length) (unused.toList ++ w.ahead o))
      | none => return
  | _ => return

def sed (args : List String) : Exec Unit := do
  let names := [("quiet", 'n'), ("silent", 'n'), ("expression", 'e'), ("file", 'f'), ("in-place", 'i'), ("line-length", 'l'),
    ("regexp-extended", 'E'), ("separate", 's'), ("unbuffered", 'u'), ("null-data", 'z'), ("zero-terminated", 'z'),
    ("posix", '\x01'), ("debug", '\x02'), ("follow-symlinks", '\x03'), ("sandbox", '\x04'), ("help", '\x05')]
  let usage : Usage := { letters := "ne:f:i::l:Ersuz\x01\x02\x03\x04\x05", names }
  match usage.read args with
  | .error message =>
    interject message
    tell 2 sedUsage
    status 1
  | .ok a =>
    status 0
    let given ← scriptParts a.flags
    let (parts, operands) := if a.has 'e' || a.has 'f' then (given, a.operands)
      else (a.operands.head?.toList.map fun s => ⟨s.toList, none⟩, a.operands.drop 1)
    if a.has '\x05' then print sedUsage
    else if parts.isEmpty then
      tell 2 sedUsage
      status 1
    else
      let text := List.intercalate ['\n'] (parts.map ScriptPart.text)
      match Sed.parse (a.has 'E' || a.has 'r') text with
      | .error (.at position message) =>
        interject (placeOf parts 1 position ++ ": " ++ message)
        status 1
      | .error (.noLabel name) =>
        interject ("can't find label for jump to \x60" ++ name ++ "'")
        status 4
      | .error (.plain message) =>
        interject message
        status 1
      | .ok script =>
        let isQuiet := a.has 'n' || "#n".toList.isPrefixOf text
        let m : Manner := {
          script
          quiet := isQuiet
          separate := a.has 's' || a.has 'i'
          inPlace := a.get? 'i'
          stop := if a.has 'z' then '\x00' else '\n'
          width := (((a.get? 'l').bind String.toNat?).getD 70)
          prompt := a.has 'u' }
        if a.has 'i' && operands.isEmpty then Sed.die "no input files" 4
        let targets ← openTargets script.targets.eraseDups
        let started := (List.range script.steps.size).filter fun i =>
          (script.steps[i]?).any Step.started
        let start : State := {
          pattern := "", held := "", isEnded := true, line := 0, name := "-"
          feed := ⟨none, [], "", inputNames operands⟩
          queue := [], changed := false, active := started.map (·, noLine)
          lastRegex := none, isOpen := false, targets, sources := [], edited := none }
        let ((), s) ← (cycles m manyBlocks false).run start
        let ((), s) ← (do
          if s.edited.isSome then
            -- what has not been read stays as it is
            let left ← restOfInput m manyBlocks []
            for l in left do emit l
            finishFile m).run s
        returnUnused s.feed
        match ← close with
        | some e => Sed.die ("couldn't flush stdout: " ++ e.text) 4
        | none => return

end Flowline.Shell.Exec
