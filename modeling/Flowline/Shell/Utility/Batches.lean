import Flowline.Shell.Utility.Launching

/-!
# Arguments from an input

`xargs`: words or lines of the standard input become arguments of a program, as many at once as are asked for.
-/

namespace Flowline.Shell

namespace Batches

/-! ## Items -/

/-- How an input is taken apart. -/
inductive Division
  /-- Into words; quotes and backslashes take the meaning of blanks. -/
  | words
  /-- Into lines without the blanks in front of them; quotes and backslashes count as well. -/
  | lines
  /-- At every such character. -/
  | byStop (c : Char)

/-- What has been read of an item: its characters, the last one first, if there is one, the open quote, and
whether the last character was a backslash or a blank. -/
structure Reader where
  item : Option (List Char)
  quote : Option Char
  escaped : Bool
  blank : Bool

def Reader.start : Reader := ⟨none, none, false, false⟩

/-- An item; whether it ends a line. -/
structure Item where
  text : String
  endsLine : Bool

def textOf (cs : List Char) : String := String.ofList cs.reverse

/-- Takes in a character; an item may be complete, or a line may end without one. -/
def Reader.step (d : Division) (r : Reader) (c : Char) : Reader × Option (Option String × Bool) :=
  let add (c : Char) : Reader := ⟨some (c :: r.item.getD []), r.quote, false, false⟩
  match d with
  | .byStop stop =>
    if c = stop then (.start, some (some (textOf (r.item.getD [])), true)) else (add c, none)
  | _ =>
    if r.escaped then (add c, none)
    else
      match r.quote with
      | some q => if c = q then ({ r with quote := none }, none) else (add c, none)
      | none =>
        let isLine := match d with
          | .lines => true
          | _ => false
        if c = '\\' then ({ r with escaped := true, item := some (r.item.getD []) }, none)
        else if c = '\'' || c = '"' then ({ r with quote := some c, item := some (r.item.getD []) }, none)
        else if c = '\n' then (.start, some (r.item.map textOf, ! r.blank))
        else if c = ' ' || c = '\t' then
          if isLine then if r.item.isSome then (add c, none) else (r, none)
          else if r.item.isSome then (⟨none, none, false, true⟩, some (r.item.map textOf, false))
          else ({ r with blank := true }, none)
        else (add c, none)

/-- What is left at the end of the input. -/
def Reader.finish (d : Division) (r : Reader) : Option String :=
  match d with
  | .byStop _ => r.item.map textOf
  | _ => r.item.map textOf

/-! ## Commands -/

/-- How a program is called. -/
structure Batching where
  division : Division
  /-- The arguments in front of those from the input. -/
  command : List String
  /-- Stands for the item in the arguments. -/
  placeholder : Option String
  count : Option Nat
  lines : Option Nat
  size : Nat
  atOnce : Nat
  /-- The item that ends the input. -/
  last : Option String
  shown : Bool
  notEmpty : Bool

/-- What has been gathered for the next call, the last item first, with its size and its lines; whether the
program has been called; the processes that run. -/
structure State where
  items : List String
  size : Nat
  lines : Nat
  called : Bool
  running : List Nat
  ended : Bool

def totalSize (args : List String) : Nat := (args.map fun a => a.length + 1).foldl (· + ·) 0

end Batches

namespace Exec

open Batches

section Batches

variable (launch : String → List String → Exec OsError)

/-- Takes note of the end of a call. -/
def judge (name : String) : Ending → Exec Unit
  | .exited 255 => do
    complain (name ++ ": exited with status 255; aborting")
    status 124
    halt .ended
  | .exited n => if n ≠ 0 then failWith 123 else return
  | .killed n => do
    complain (name ++ ": terminated by signal " ++ toString n)
    status 125
    halt .ended

/-- Waits until at most `most` calls are running. -/
def awaitCalls (name : String) (most : Nat) : Nat → List Nat → Exec (List Nat)
  | 0, running => return running
  | fuel + 1, running => do
    let w ← world
    match running.find? fun pid => ! w.isRunning pid with
    | some pid =>
      let ending ← awaitChild pid
      judge name ending
      awaitCalls name most fuel (running.filter (· ≠ pid))
    | none =>
      if running.length ≤ most then return running
      pause .anyChild false
      awaitCalls name most fuel running

/-- Calls the program. -/
def call (p : Batching) (argv : List String) (s : State) : Exec State := do
  let name := argv.headD ""
  if p.shown then tell 2 (String.intercalate " " (argv.map Quotation.whereNeeded) ++ "\n")
  let q ← get
  match runnablePath (← files) q.directory (searchPath q) name with
  | .error e =>
    endUnlaunched name e
    halt .ended
  | .ok _ =>
    let running ← awaitCalls name (p.atOnce - 1) manyBlocks s.running
    let child := match ← openFile "/dev/null" .read with
      | .ok h => q.bind 0 (some h)
      | .error _ => q
    let pid ← fork { child with held := [] } (executeOr launch (fun n => n) argv)
    let running ← awaitCalls name (p.atOnce - 1) manyBlocks (running ++ [pid])
    return { s with items := [], size := 0, lines := 0, called := true, running }

/-- Calls the program with what has been gathered. -/
def callGathered (p : Batching) (s : State) : Exec State :=
  call launch p (p.command ++ s.items.reverse) s

/-- Takes in an item, and the end of a line. -/
def takeItem (p : Batching) (s : State) (item : Option String) (endsLine : Bool) : Exec State := do
  match item with
  | some text =>
    if p.last = some text then return { s with ended := true }
    match p.placeholder with
    | some mark => call launch p (p.command.map fun a => Text.replace a mark text) s
    | none =>
      let size := text.length + 1
      let s ← if ! s.items.isEmpty && p.size < totalSize p.command + s.size + size then callGathered launch p s else pure s
      let s := { s with
        items := text :: s.items, size := s.size + size, lines := if endsLine then s.lines + 1 else s.lines }
      if p.count = some s.items.length || (endsLine && p.lines = some s.lines) then callGathered launch p s
      else return s
  | none =>
    if endsLine && ! s.items.isEmpty && p.lines.isSome then
      let s := { s with lines := s.lines + 1 }
      if p.lines = some s.lines then callGathered launch p s else return s
    else return s

/-- Takes in the characters of a block. -/
def takeChars (p : Batching) : List Char → Reader → State → Exec (Reader × State)
  | [], r, s => return (r, s)
  | c :: cs, r, s => do
    if s.ended then return (r, s)
    let isQuoted : Bool := r.quote.isSome && c = '\n'
    if isQuoted then return ({ r with escaped := false }, { s with ended := true })
    let (r, found) := r.step p.division c
    match found with
    | none => takeChars p cs r s
    | some (item, endsLine) =>
      let s ← takeItem launch p s item endsLine
      takeChars p cs r s

/-- Goes through the input. -/
def takeInput (p : Batching) (h : Handle) : Exec Unit := do
  let begun : Reader × State := (Reader.start, ⟨[], 0, 0, false, [], false⟩)
  let (r, s) ← match ← holding h (foldBlocks h (fun (r, s) block => do
      let (r, s) ← takeChars launch p block.toList r s
      return ((r, s), ! s.ended)) begun) with
    | .ok found => pure found
    | .error _ => pure begun
  let s ← match r.quote with
    | some q =>
      complain ("unmatched " ++ (if q = '"' then "double" else "single") ++
        " quote; by default quotes are special to xargs unless you use the -0 option")
      status 1
      pure s
    | none =>
      match if s.ended then none else r.finish p.division with
      | some text => takeItem launch p s (some text) true
      | none => pure s
  let s ← if ! s.items.isEmpty || (! s.called && p.placeholder.isNone && ! p.notEmpty)
    then callGathered launch p s else pure s
  let _ ← awaitCalls (p.command.headD "") 0 manyBlocks s.running

/-- The value of an option that is a number. -/
def amount (letter : Char) (least : Nat) (text : String) : Exec (Option Nat) := do
  match integer? text with
  | none =>
    misuse ("invalid number \"" ++ text ++ "\" for -" ++ String.ofList [letter] ++ " option") 1
    return none
  | some n =>
    if n < least then
      misuse ("value " ++ toString n ++ " for -" ++ String.ofList [letter] ++ " option should be >= " ++ toString least) 1
      return none
    return some n.toNat

/-- The character that the argument of `-d` stands for. -/
def stopOf (text : String) : Char :=
  match text.toList with
  | '\\' :: cs => ((Format.unescape 8 ('\\' :: cs)).1).headD '\\'
  | c :: _ => c
  | [] => '\x00'

def xargs (args : List String) : Exec Unit :=
  let names := [("null", '0'), ("arg-file", 'a'), ("delimiter", 'd'), ("eof", 'e'), ("replace", 'i'), ("max-lines", 'l'),
    ("max-args", 'n'), ("open-tty", 'o'), ("max-procs", 'P'), ("interactive", 'p'), ("no-run-if-empty", 'r'),
    ("max-chars", 's'), ("verbose", 't'), ("exit", 'x')]
  withArguments { letters := "0a:d:E:e::I:i::L:l::n:oP:prs:tx", names, inFront := true } 1 args fun a => do
    let mut failed := false
    let mut values : List (Char × Nat) := []
    for (c, v) in a.flags do
      if ! failed && ("nLsP".toList.contains c || (c = 'l' && v ≠ "")) then
        match ← amount c (if c = 'P' then 0 else 1) v with
        | some n => values := (c, n) :: values
        | none => failed := true
    if failed then return
    let lastMode := (a.flags.reverse.find? fun f => "nLlIi".toList.contains f.1).map Prod.fst
    let placeholder := match lastMode with
      | some 'I' => a.get? 'I'
      | some 'i' => (a.get? 'i').map fun s => if s = "" then "\x7b\x7d" else s
      | _ => none
    if placeholder.isSome && a.has 'n' then
      complain "warning: options --max-args and --replace/-I/-i are mutually exclusive, ignoring previous --max-args value"
    let division := match a.last? ['0', 'd'] with
      | some '0' => Division.byStop '\x00'
      | some _ => .byStop (stopOf ((a.get? 'd').getD "\n"))
      | none => if placeholder.isSome then .lines else .words
    let atOnce := (values.lookup 'P').getD 1
    let p : Batching := {
      division
      command := if a.operands.isEmpty then ["echo"] else a.operands
      placeholder
      count := if lastMode = some 'n' then values.lookup 'n' else none
      lines := match lastMode with
        | some 'L' => values.lookup 'L'
        | some 'l' => some ((values.lookup 'l').getD 1)
        | _ => none
      size := (values.lookup 's').getD 131072
      atOnce := if atOnce = 0 then 0x10000 else atOnce
      last := ((a.get? 'E').or (a.get? 'e')).filter (· ≠ "")
      shown := a.has 't' || a.has 'p'
      notEmpty := a.has 'r' }
    match ← (match a.get? 'a' with
      | some name => openFile name .read
      | none => openInput "-") with
    | .ok h => takeInput launch p h
    | .error e =>
      complain ("Cannot open input file " ++ Quotation.always ((a.get? 'a').getD "-") ++ ": " ++ e.text)
      status 1

end Batches

end Exec

end Flowline.Shell
