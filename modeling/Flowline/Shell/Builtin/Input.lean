import Flowline.Shell.Builtin.Options

/-!
# Commands that read input and arguments

`read` takes a line apart, and `getopts` goes through the options among arguments.
-/

namespace Flowline.Shell

/-! ## Taking lines apart -/

namespace Line

/-- A line that is being cut into fields. -/
structure Cut where
  /-- The fields that are complete, the last one first. -/
  done : List (List Char)
  /-- The field that is being read, the last character first. -/
  current : List Char
  /-- How many further fields may be cut off; the last one takes the rest. -/
  room : Nat
  /-- The last character was a blank that separates fields. -/
  afterBlank : Bool
  /-- The length of the last field without what is to be dropped at its end. -/
  kept : Option Nat

def isBlank (c : Char) : Bool := c = ' ' || c = '\t' || c = '\n'

/-- Adds a character, which is no separator if it was escaped. -/
def Cut.add (separators : List Char) (s : Cut) (x : Char × Bool) : Cut :=
  let (c, escaped) := x
  let stops := ! escaped && separators.contains c
  let blank := stops && isBlank c
  if escaped then
    { s with
      current := c :: s.current
      afterBlank := false
      kept := if s.room = 0 then none else s.kept }
  else if s.room = 0 then
    if blank then { s with current := c :: s.current, kept := s.kept.or (some s.current.length) }
    else { s with
      current := c :: s.current
      kept := if stops && s.afterBlank then s.kept else none
      afterBlank := false }
  else if s.afterBlank && blank then { s with current := [] }
  else if s.afterBlank && stops then { s with current := [], afterBlank := false }
  else if ! stops then
    { s with current := if s.afterBlank then [c] else c :: s.current, afterBlank := false }
  else if blank && s.current.isEmpty then { s with afterBlank := false }
  else if s.room = 1 then
    { s with current := c :: s.current, room := 0, kept := some s.current.length, afterBlank := blank }
  else
    { s with done := s.current.reverse :: s.done, current := [], room := s.room - 1, afterBlank := blank }

/-- At most `room` fields of a line. -/
def fields (separators : List Char) (room : Nat) (line : List (Char × Bool)) : List String :=
  let s := line.foldl (Cut.add separators) ⟨[], [], room, false, none⟩
  let last := match s.kept with
    | some n => s.current.reverse.take n
    | none => s.current.reverse
  (s.done.reverse ++ if s.current.isEmpty then [] else [last]).map String.ofList

/-- The characters of a line, escaped or not, and whether the line goes on. -/
def unescape (raw : Bool) : List Char → List (Char × Bool) × Bool
  | [] => ([], false)
  | '\\' :: rest =>
    if raw then
      let (cs, more) := unescape raw rest
      (('\\', false) :: cs, more)
    else
      match rest with
      | [] => ([], true)
      | c :: rest =>
        let (cs, more) := unescape raw rest
        ((c, true) :: cs, more)
  | c :: rest =>
    let (cs, more) := unescape raw rest
    (if c = '\x00' then cs else (c, false) :: cs, more)

end Line

namespace Exec

/-! ## Reading a line -/

/-- Takes the characters up to a line feed, and that one, from a pipe; whether a line feed came. -/
def takePipeLine (n : Nat) : Nat → List Char → Exec (List Char × Bool)
  | 0, _ => hang
  | fuel + 1, before => do
    if ! (← waitPipe n true) then return (before, false)
    work 1
    let (found, ended) ← withWorld fun w =>
      match w.pipes[n]? with
      | none => (([], false), w)
      | some p =>
        let p := p.unpacked
        let line := p.front.takeWhile (· ≠ '\n')
        let ended := line.length < p.size
        let rest := p.drop (line.length + if ended then 1 else 0)
        ((line, ended), { w with pipes := w.pipes.modify n fun _ => rest })
    if ended then return (before ++ found, true) else takePipeLine n fuel (before ++ found)

/-- Takes a line, and whether a line feed ended it. -/
def takeLine (h : Handle) : Exec (List Char × Bool) := do
  match h with
  | .reader n | .duplex n => takePipeLine n manyBlocks []
  | .file n =>
    work 1
    let w ← world
    match w.opened[n]? with
    | none => return ([], false)
    | some o =>
      if ! o.readable then return ([], false)
      let cs := w.ahead o
      let line := cs.takeWhile (· ≠ '\n')
      let rest := cs.drop line.length
      changeWorld (·.moveTo n (o.place + line.length + (rest.take 1).length) (rest.drop 1))
      return (line, ! rest.isEmpty)
  | _ => return ([], false)

/-- Takes a line with those that it goes on in. -/
def takeLogicalLine (h : Handle) (raw : Bool) : Nat → Exec (List (Char × Bool) × Bool)
  | 0 => hang
  | fuel + 1 => do
    let (line, ended) ← takeLine h
    let (cs, more) := Line.unescape raw line
    if more && ended then
      let (rest, ended) ← takeLogicalLine h raw fuel
      return (cs ++ rest, ended)
    else return (cs, ended)

/-- Sets variables to texts, and those that are left over to nothing. -/
def assignFields : List String → List String → Exec Unit
  | [], _ => return
  | x :: xs, fields => do
    if ! isName x then abort (Text.before '=' x ++ ": bad variable name")
    assign x (fields.headD "")
    assignFields xs (fields.drop 1)

def read (args : List String) : Exec Unit := do
  let (flags, names) ← splitOptions "p:r" args
  if names.isEmpty then abort "arg count"
  let raw := flags.any (·.1 = 'r')
  let p ← get
  let (line, ended) ← match p.handle? 0 with
    | some h => takeLogicalLine h raw manyBlocks
    | none => pure ([], false)
  assignFields names (Line.fields (separators p).toList names.length line)
  status (if ended then 0 else 1)

/-! ## Options among arguments -/

/-- What `getopts` has found. -/
structure Choice where
  letter : Char
  /-- The argument of the option; without one, `OPTARG` is unset. -/
  value : Option String
  /-- The message that goes with it. -/
  message : Option String
  /-- The next argument to look at, and the next letter in it. -/
  next : Nat
  offset : Option Nat
  done : Bool

/-- The next option among some arguments. -/
def nextChoice (spec : String) (words : List String) (index : Nat) (offset : Option Nat) : Choice :=
  let silent := spec.toList.head? = some ':'
  let letters : List Char := match offset with
    | some k => if index ≤ 1 then [] else ((words[index - 2]?.getD "").toList.drop k)
    | none => []
  let finished (next : Nat) : Choice := ⟨'?', some "", none, next, none, true⟩
  let choose (letters : List Char) (next : Nat) : Choice :=
    let c := letters.headD '?'
    let more := letters.drop 1
    let word := (words[next - 2]?.getD "").length
    let here := some (word - more.length)
    match optionKind? spec.toList c with
    | none =>
      if silent then ⟨'?', some (String.ofList [c]), none, next, here, false⟩
      else ⟨'?', none, some ("Illegal option -" ++ String.ofList [c]), next, here, false⟩
    | some false => ⟨c, some "", none, next, here, false⟩
    | some true =>
      if ! more.isEmpty then ⟨c, some (String.ofList more), none, next, none, false⟩
      else
        match words[next - 1]? with
        | some value => ⟨c, some value, none, next + 1, none, false⟩
        | none =>
          if silent then ⟨':', some (String.ofList [c]), none, next, here, false⟩
          else ⟨'?', none, some ("No arg for -" ++ String.ofList [c] ++ " option"), next, here, false⟩
  if ! letters.isEmpty then choose letters index
  else
    match (words[index - 1]?.map String.toList) with
    | some ['-', '-'] => finished (index + 1)
    | some ('-' :: c :: cs) => choose (c :: cs) (index + 1)
    | _ => finished index

def getopts (args : List String) : Exec Unit := do
  match args with
  | spec :: x :: rest =>
    let p ← get
    let words := if rest.isEmpty then p.args else rest
    let (index, offset) := if words.length + 1 < p.options.1 then (1, none) else p.options
    let c := nextChoice spec words index offset
    if ! c.done then
      match c.value with
      | some v => assign "OPTARG" v
      | none =>
        match c.message with
        | some m => tell 2 (m ++ "\n")
        | none => pure ()
        unset "OPTARG"
    assignNumber "OPTIND" c.next
    if ! isName x then abort (Text.before '=' x ++ ": bad variable name")
    assign x (String.ofList [c.letter])
    modify fun p => { p with options := (c.next, c.offset) }
    status (if c.done then 1 else 0)
  | _ => abort "Usage: getopts optstring var [arg...]"

end Exec

end Flowline.Shell
