import Flowline.Shell.Regex

/-!
# Scripts for editing streams

The commands of `sed`, each of which applies to some lines, and how they are read.
-/

namespace Flowline.Shell.Sed

/-! ## Commands -/

/-- What lines are compared with; without an expression it is the one that was used last. -/
structure Pattern where
  regex : Option Regex
  fold : Bool

/-- Which lines a command applies to, or where a range of them starts. -/
inductive Address
  | line (n : Nat)
  | last
  | matching (p : Pattern)
  /-- Every so many lines from one on. -/
  | every (first step : Nat)

/-- Where a range of lines ends. -/
inductive Bound
  | line (n : Nat)
  | last
  | matching (p : Pattern)
  /-- So many lines later. -/
  | after (n : Nat)
  /-- At the next multiple of a number. -/
  | multiple (n : Nat)

/-- A part of what takes the place of a match. -/
inductive Piece
  | text (cs : List Char)
  /-- What a group has matched; group 0 is the whole match. -/
  | group (n : Nat)
  /-- Changes the case of what follows: `U` and `L` up to an `E`, `u` and `l` for one character. -/
  | letterCase (c : Char)

/-- A file that is written to. -/
inductive Target
  | out
  | err
  | file (path : String)

structure Substitution where
  pattern : Pattern
  pieces : List Piece
  /-- All matches, from the one with a number on. -/
  all : Bool
  number : Nat
  print : Nat
  target : Option Target

inductive Action
  /-- Opens a group. -/
  | enter
  | leave
  | label
  /-- Goes to a label, or to the end: always, after a change, or without one. -/
  | jump (changed : Option Bool) (label : String)
  | substitute (s : Substitution)
  | print
  | printFirst
  | number
  | fileName
  /-- Shows the line with its characters made visible, broken to a width if one is given. -/
  | list (width : Option Nat)
  | delete
  | deleteFirst
  | quit (print : Bool) (status : Nat)
  | next
  | joinNext
  | hold (append : Bool)
  | fetch (append : Bool)
  | swap
  | clear
  | exchange (table : List (Char × Char))
  | after (text : String)
  | before (text : String)
  | change (text : String)
  /-- Adds a file after the line, or just its next line. -/
  | insert (line : Bool) (path : String)
  | write (first : Bool) (target : Target)
  | nothing

structure Step where
  first : Option Address
  second : Option Bound
  /-- The range has already started before the first line. -/
  started : Bool
  negated : Bool
  action : Action

/-! ## Reading scripts -/

/-- What is wrong with a script. -/
inductive Fault
  /-- With a message, after so many characters. -/
  | at (position : Nat) (message : String)
  | noLabel (name : String)
  /-- With a message and nothing about its place. -/
  | plain (message : String)

/-- What is left of a script, and the length of the whole. -/
structure Cursor where
  chars : List Char
  position : Nat

abbrev Parser := StateT Cursor (Except Fault)

def fail {α : Type} (message : String) : Parser α := do throw (.at (← get).position message)

def peek : Parser (Option Char) := do return (← get).chars.head?

def advance (n : Nat) : Parser Unit := modify fun c => ⟨c.chars.drop n, c.position + min n c.chars.length⟩

def next : Parser (Option Char) := do
  let c ← peek
  advance 1
  return c

def takeWhile (f : Char → Bool) : Parser (List Char) := do
  let cs := (← get).chars.takeWhile f
  advance cs.length
  return cs

def isBlank (c : Char) : Bool := c = ' ' || c = '\t'

def skipBlanks : Parser Unit := do let _ ← takeWhile isBlank

def number? : Parser (Option Nat) := do
  let digits ← takeWhile Char.isDigit
  return if digits.isEmpty then none else some (Text.digitsValue digits)

/-- The characters in brackets, and what follows; the brackets that a class has of its own are passed over. -/
def bracketed : Nat → List Char → List Char × List Char
  | 0, cs => ([], cs)
  | _, [] => ([], [])
  | fuel + 1, '[' :: m :: cs =>
    if m = ':' || m = '.' || m = '=' then
      let inner := cs.takeWhile (· ≠ ']')
      let (more, rest) := bracketed fuel (cs.drop (inner.length + 1))
      ('[' :: m :: inner ++ [']'] ++ more, rest)
    else
      let (more, rest) := bracketed fuel (m :: cs)
      ('[' :: more, rest)
  | _, ']' :: cs => ([']'], cs)
  | fuel + 1, c :: cs =>
    let (more, rest) := bracketed fuel cs
    (c :: more, rest)

/-- A text up to a delimiter, which a backslash takes the meaning of; in an expression brackets do so as well. -/
def delimited (isRegex : Bool) (stop : Char) : Nat → List Char → Option (List Char × List Char)
  | 0, _ => none
  | _, [] => none
  | fuel + 1, '\\' :: c :: cs =>
    (delimited isRegex stop fuel cs).map fun (text, rest) => (if c = stop then c :: text else '\\' :: c :: text, rest)
  | fuel + 1, c :: cs =>
    if c = stop then some ([], cs)
    else if isRegex && c = '[' then
      let start := (if cs.head? = some '^' then cs.take 1 else [])
      let cs := cs.drop start.length
      let first := (if cs.head? = some ']' then cs.take 1 else [])
      let (inner, rest) := bracketed (cs.length + 1) (cs.drop first.length)
      (delimited isRegex stop fuel rest).map fun (text, rest) => ('[' :: start ++ first ++ inner ++ text, rest)
    else (delimited isRegex stop fuel cs).map fun (text, rest) => (c :: text, rest)

/-- The text up to a delimiter. -/
def upTo (isRegex : Bool) (stop : Char) (message : String) : Parser (List Char) := do
  let cs := (← get).chars
  match delimited isRegex stop (cs.length + 1) cs with
  | some (text, rest) =>
    advance (cs.length - rest.length)
    return text
  | none =>
    advance cs.length
    fail message

/-- The character that an escape stands for, and what follows. -/
def escape? : List Char → Option (Char × List Char)
  | 'a' :: cs => some ('\x07', cs)
  | 'f' :: cs => some ('\x0c', cs)
  | 'n' :: cs => some ('\n', cs)
  | 'r' :: cs => some ('\r', cs)
  | 't' :: cs => some ('\t', cs)
  | 'v' :: cs => some ('\x0b', cs)
  | 'c' :: c :: cs => some (Char.ofNat (Nat.xor c.toUpper.toNat 64), cs)
  | 'd' :: cs => coded 10 3 cs
  | 'o' :: cs => coded 8 3 cs
  | 'x' :: cs => coded 16 2 cs
  | _ => none
where
  coded (base most : Nat) (cs : List Char) : Option (Char × List Char) :=
    let isDigit (c : Char) : Bool := match Text.hexValue? c with
      | some n => n < base
      | none => false
    let digits := (cs.take most).takeWhile isDigit
    if digits.isEmpty then none
    else
      let n := digits.foldl (fun n c => base * n + (Text.hexValue? c).getD 0) 0
      some (Char.ofNat (n % 256), cs.drop digits.length)

/-- An expression with the escapes resolved that stand for one character. -/
def plainRegex : Nat → List Char → List Char
  | 0, cs => cs
  | _, [] => []
  | fuel + 1, '\\' :: c :: cs =>
    if c = 'c' || c = 'b' then '\\' :: c :: plainRegex fuel cs
    else
      match escape? (c :: cs) with
      | some (d, rest) =>
        let isSpecial := "^$.*[]\\".toList.contains d
        (if isSpecial then ['\\', d] else [d]) ++ plainRegex fuel rest
      | none => '\\' :: c :: plainRegex fuel cs
  | fuel + 1, c :: cs => c :: plainRegex fuel cs

/-- The expression that a text writes. -/
def regex (extended byLines : Bool) (text : List Char) : Parser (Option Regex) := do
  if text.isEmpty then return none
  match Regex.parse? ⟨extended, true, true⟩ (String.ofList (plainRegex (text.length + 1) text)) with
  | .ok r => return some (if byLines then r.byLines else r)
  | .error .bareClass => throw (.plain Regex.Fault.bareClass.message)
  | .error fault => fail fault.message

/-- The expression after an opening delimiter, with the letters after the closing one. -/
def pattern (extended : Bool) (stop : Char) : Parser Pattern := do
  let text ← upTo true stop "unterminated address regex"
  let letters ← takeWhile fun c => c = 'I' || c = 'M'
  return ⟨← regex extended (letters.contains 'M') text, letters.contains 'I'⟩

/-- An address, if there is one. -/
def address? (extended : Bool) : Parser (Option Address) := do
  match ← peek with
  | some '$' =>
    advance 1
    return some .last
  | some '/' =>
    advance 1
    return some (.matching (← pattern extended '/'))
  | some '\\' =>
    advance 1
    match ← next with
    | some stop => return some (.matching (← pattern extended stop))
    | none => fail "unexpected \x60,'"
  | _ =>
    match ← number? with
    | none => return none
    | some n =>
      skipBlanks
      if (← peek) = some '~' then
        advance 1
        skipBlanks
        let step := (← number?).getD 0
        return some (if step = 0 then .line n else .every n step)
      return some (.line n)

/-- The end of a range, after the comma. -/
def bound (extended : Bool) : Parser Bound := do
  skipBlanks
  match ← peek with
  | some '+' =>
    advance 1
    match ← number? with
    | some n => return .after n
    | none => fail "expected newer version of sed"
  | some '~' =>
    advance 1
    match ← number? with
    | some n => return .multiple n
    | none => fail "expected newer version of sed"
  | _ =>
    match ← address? extended with
    | some (.line n) => return .line n
    | some .last => return .last
    | some (.matching p) => return .matching p
    | some (.every n _) => return .line n
    | none => fail "unexpected \x60,'"

/-- Checks that nothing more belongs to a command. -/
def endCommand : Parser Unit := do
  skipBlanks
  match ← peek with
  | none => return
  | some '\n' => advance 1
  | some ';' => advance 1
  | some '}' => return
  | some '#' => return
  | some _ =>
    advance 1
    fail "extra characters after command"

/-- The text up to the end of the line. -/
def restOfLine : Parser (List Char) := do
  let cs ← takeWhile (· ≠ '\n')
  advance 1
  return cs

/-- The file that a command reads or writes. -/
def path : Parser String := do
  skipBlanks
  let cs ← restOfLine
  if cs.isEmpty then fail "missing filename in r/R/w/W commands"
  return String.ofList cs

def target : Parser Target := do
  match ← path with
  | "/dev/stdout" => return .out
  | "/dev/stderr" => return .err
  | p => return .file p

/-- The text of lines that are written, of which all but the last end in a backslash; with what is left. -/
def linesText : Nat → List Char → List Char × List Char
  | 0, cs => ([], cs)
  | _, [] => ([], [])
  | _, '\n' :: cs => ([], cs)
  | _, ['\\'] => ([], [])
  | fuel + 1, '\\' :: c :: cs =>
    let (d, rest) := match if c = 'd' || c = 'c' then none else escape? (c :: cs) with
      | some (d, rest) => (d, rest)
      | none => (c, cs)
    let (more, rest) := linesText fuel rest
    (d :: more, rest)
  | fuel + 1, c :: cs =>
    let (more, rest) := linesText fuel cs
    (c :: more, rest)

/-- The text of a command that writes lines. -/
def text : Parser String := do
  skipBlanks
  let give (cs : List Char) : Parser String := do
    let (shown, rest) := linesText (cs.length + 1) cs
    advance ((← get).chars.length - rest.length)
    return String.ofList shown ++ "\n"
  let expected := "expected \\ after \x60a', \x60c' or \x60i'"
  match (← get).chars with
  | [] => fail expected
  | '\n' :: _ => fail expected
  | ['\\'] =>
    advance 1
    return ""
  | '\\' :: cs =>
    match cs.dropWhile isBlank with
    | '\n' :: rest => give rest
    | _ =>
      advance 1
      give cs
  | cs => give cs

/-- The name of a label. -/
def labelName (inGroup : Bool) : Parser String := do
  skipBlanks
  let cs ← takeWhile fun c => ! isSpace c && c ≠ ';' && (c ≠ '\x7d' || ! inGroup)
  return String.ofList cs

/-- The pieces that take the place of a match. -/
def pieces : Nat → List Char → List Piece
  | 0, _ => []
  | _, [] => []
  | fuel + 1, '\\' :: c :: cs =>
    if c.isDigit then .group (c.toNat - '0'.toNat) :: pieces fuel cs
    else if "ULEul".toList.contains c then .letterCase c :: pieces fuel cs
    else
      match escape? (c :: cs) with
      | some (d, rest) => .text [d] :: pieces fuel rest
      | none => .text [c] :: pieces fuel cs
  | fuel + 1, '&' :: cs => .group 0 :: pieces fuel cs
  | fuel + 1, c :: cs =>
    match pieces fuel cs with
    | .text more :: rest => .text (c :: more) :: rest
    | rest => .text [c] :: rest

/-- The letters after a substitution. -/
structure Letters where
  all : Bool
  number : Option Nat
  print : Nat
  fold : Bool
  byLines : Bool
  target : Option Target

def letters : Nat → Letters → Parser Letters
  | 0, l => return l
  | fuel + 1, l => do
    match ← next with
    | none => return l
    | some 'g' =>
      if l.all then fail "multiple \x60g' options to \x60s' command"
      letters fuel { l with all := true }
    | some 'p' =>
      if 0 < l.print then fail "multiple \x60p' options to \x60s' command"
      letters fuel { l with print := l.print + 1 }
    | some 'i' => letters fuel { l with fold := true }
    | some 'I' => letters fuel { l with fold := true }
    | some 'm' => letters fuel { l with byLines := true }
    | some 'M' => letters fuel { l with byLines := true }
    | some 'w' => return { l with target := some (← target) }
    | some '\n' => return l
    | some ';' => return l
    | some '\r' => return l
    | some '}' =>
      modify fun c => ⟨'}' :: c.chars, c.position - 1⟩
      return l
    | some '#' =>
      modify fun c => ⟨'#' :: c.chars, c.position - 1⟩
      return l
    | some c =>
      if isBlank c then letters fuel l
      else if c.isDigit then
        if l.number.isSome then fail "multiple number options to \x60s' command"
        let more ← takeWhile Char.isDigit
        let n := Text.digitsValue (c :: more)
        if n = 0 then fail "number option to \x60s' command may not be zero"
        letters fuel { l with number := some n }
      else fail "unknown option to \x60s'"

def substitution (extended : Bool) : Parser Action := do
  let unterminated := "unterminated \x60s' command"
  match ← next with
  | none => fail unterminated
  | some '\n' => fail unterminated
  | some stop =>
    let old ← upTo true stop unterminated
    let new ← upTo false stop unterminated
    let l ← letters ((← get).chars.length + 1) ⟨false, none, 0, false, false, none⟩
    let r ← regex extended l.byLines old
    let parts := pieces (new.length + 1) new
    let most := parts.foldl (fun n p => match p with
      | .group m => max n m
      | _ => n) 0
    match r with
    | some r =>
      if r.groupCount < most then
        fail ("invalid reference \\" ++ toString most ++ " on \x60s' command's RHS")
    | none => pure ()
    return .substitute ⟨⟨r, l.fold⟩, parts, l.all, l.number.getD 1, l.print, l.target⟩

/-- The characters of one side of an exchange. -/
def sideOf : Nat → List Char → List Char
  | 0, cs => cs
  | _, [] => []
  | fuel + 1, '\\' :: '\\' :: cs => '\\' :: sideOf fuel cs
  | fuel + 1, '\\' :: cs =>
    match escape? cs with
    | some (c, rest) => c :: sideOf fuel rest
    | none => '\\' :: sideOf fuel cs
  | fuel + 1, c :: cs => c :: sideOf fuel cs

def exchange : Parser Action := do
  let unterminated := "unterminated \x60y' command"
  match ← next with
  | none => fail unterminated
  | some stop =>
    let old ← upTo false stop unterminated
    let new ← upTo false stop unterminated
    let old := sideOf (old.length + 1) old
    let new := sideOf (new.length + 1) new
    if old.length ≠ new.length then fail "strings for \x60y' command are different lengths"
    endCommand
    return .exchange (old.zip new)

/-- The action of a letter. -/
def action (extended : Bool) (c : Char) : Parser Action := do
  let simple (a : Action) : Parser Action := do
    endCommand
    return a
  let coded (print : Bool) : Parser Action := do
    skipBlanks
    let n ← number?
    simple (.quit print (n.getD 0))
  match c with
  | '{' => return .enter
  | '=' => simple .number
  | 'a' => return .after (← text)
  | 'i' => return .before (← text)
  | 'c' => return .change (← text)
  | 'b' => jump none
  | 't' => jump (some true)
  | 'T' => jump (some false)
  | 'd' => simple .delete
  | 'D' => simple .deleteFirst
  | 'F' => simple .fileName
  | 'g' => simple (.fetch false)
  | 'G' => simple (.fetch true)
  | 'h' => simple (.hold false)
  | 'H' => simple (.hold true)
  | 'l' =>
    skipBlanks
    let n ← number?
    simple (.list n)
  | 'n' => simple .next
  | 'N' => simple .joinNext
  | 'p' => simple .print
  | 'P' => simple .printFirst
  | 'q' => coded true
  | 'Q' => coded false
  | 'r' => return .insert false (← path)
  | 'R' => return .insert true (← path)
  | 's' => substitution extended
  | 'v' =>
    let _ ← labelName true
    simple .nothing
  | 'w' => return .write false (← target)
  | 'W' => return .write true (← target)
  | 'x' => simple .swap
  | 'y' => exchange
  | 'z' => simple .clear
  | c => fail ("unknown command: \x60" ++ String.ofList [c] ++ "'")
where
  jump (changed : Option Bool) : Parser Action := do
    let name ← labelName true
    endCommand
    return .jump changed name

/-- The steps of a script so far, the last one first, the groups that are open, and the places of labels and
of the ends of groups. -/
structure Draft where
  steps : List Step
  count : Nat
  opened : List Nat
  labels : List (String × Nat)
  groups : List (Nat × Nat)

def Draft.add (d : Draft) (s : Step) : Draft := { d with steps := s :: d.steps, count := d.count + 1 }

/-- Line zero, before the first line. -/
def Address.isZero : Address → Bool
  | .line n => n = 0
  | _ => false

def Bound.isPattern : Bound → Bool
  | .matching _ => true
  | _ => false

/-- The addresses in front of a command: the start, the end, and whether the range has already started. -/
def addresses (extended : Bool) : Parser (Option Address × Option Bound × Bool) := do
  match ← peek with
  | some '+' =>
    advance 2
    fail "invalid usage of +N or ~N as first address"
  | some '~' =>
    advance 2
    fail "invalid usage of +N or ~N as first address"
  | _ => pure ()
  let first ← address? extended
  if first.isNone then return (none, none, false)
  skipBlanks
  let isZero := first.any Address.isZero
  if (← peek) = some ',' then
    advance 1
    let b ← bound extended
    if isZero && ! b.isPattern then
      advance 1
      fail "invalid usage of line address 0"
    return (first, some b, isZero)
  if isZero then
    advance 1
    fail "invalid usage of line address 0"
  return (first, none, false)

/-- Whether an action takes at most one address. -/
def takesOneAddress : Action → Bool
  | .quit _ _ => true
  | _ => false

/-- The steps from here to the end of the script. -/
def steps (extended : Bool) : Nat → Draft → Parser Draft
  | 0, d => return d
  | fuel + 1, d => do
    let _ ← takeWhile fun c => isSpace c || c = ';'
    if (← peek).isNone then return d
    let (first, second, started) ← addresses extended
    skipBlanks
    let negated ← if (← peek) = some '!' then do
        advance 1
        skipBlanks
        if (← peek) = some '!' then
          advance 1
          fail "multiple \x60!'s"
        pure true
      else pure false
    let step (a : Action) : Step := ⟨first, second, started, negated, a⟩
    match ← next with
    | none => fail "missing command"
    | some '\n' => fail "missing command"
    | some ';' => fail "missing command"
    | some '#' =>
      if first.isSome then fail "comments don't accept any addresses"
      let _ ← restOfLine
      steps extended fuel d
    | some ':' =>
      if first.isSome then fail ": doesn't want any addresses"
      let name ← labelName false
      if name = "" then fail "\":\" lacks a label"
      steps extended fuel (({ d with labels := (name, d.count) :: d.labels }).add (step .label))
    | some '}' =>
      match d.opened with
      | [] => fail "unexpected \x60\x7d'"
      | start :: opened =>
        if first.isSome then fail "\x7d doesn't want any addresses"
        endCommand
        steps extended fuel (({ d with opened, groups := (start, d.count) :: d.groups }).add (step .leave))
    | some c =>
      let a ← action extended c
      if second.isSome && takesOneAddress a then fail "command only uses one address"
      let d := match a with
        | .enter => { d with opened := d.count :: d.opened }
        | _ => d
      steps extended fuel (d.add (step a))

/-- A script, ready to be run. -/
structure Script where
  steps : Array Step
  labels : List (String × Nat)
  groups : List (Nat × Nat)

/-- The script that a text writes, or what is wrong with it. -/
def parse (extended : Bool) (text : List Char) : Except Fault Script := do
  let (d, _) ← (steps extended (text.length + 1) ⟨[], 0, [], [], []⟩).run ⟨text, 0⟩
  if ! d.opened.isEmpty then throw (.at 0 "unmatched \x60\x7b'")
  for s in d.steps do
    match s.action with
    | .jump _ name => if name ≠ "" && (d.labels.lookup name).isNone then throw (.noLabel name)
    | _ => pure ()
  return ⟨d.steps.reverse.toArray, d.labels, d.groups⟩

/-- The files that a script writes. -/
def Script.targets (s : Script) : List String :=
  s.steps.toList.filterMap fun step => match step.action with
    | .write _ (.file path) => some path
    | .substitute { target := some (.file path), .. } => some path
    | _ => none

/-! ## Substitution -/

/-- How the case of characters changes: for all that follow, and for the next one. -/
structure Casing where
  always : Option Bool
  once : Option Bool

def change (upper : Bool) (c : Char) : Char := if upper then c.toUpper else c.toLower

/-- Some characters in the case that is asked for. -/
def Casing.apply (k : Casing) : List Char → Casing × List Char
  | [] => (k, [])
  | c :: cs =>
    let rest (cs : List Char) : List Char := match k.always with
      | some upper => cs.map (change upper)
      | none => cs
    match k.once with
    | some upper => ({ k with once := none }, change upper c :: rest cs)
    | none => (k, rest (c :: cs))

/-- What takes the place of a match. -/
def fill (pieces : List Piece) (whole : List Char) (groups : List (Nat × List Char)) : List Char :=
  (pieces.foldl (fun (acc : Casing × List (List Char)) p =>
    let (k, out) := acc
    let add (cs : List Char) : Casing × List (List Char) :=
      let (k, cs) := k.apply cs
      (k, cs :: out)
    match p with
    | .text cs => add cs
    | .group 0 => add whole
    | .group n => add ((groups.lookup n).getD [])
    | .letterCase 'U' => (⟨some true, none⟩, out)
    | .letterCase 'L' => (⟨some false, none⟩, out)
    | .letterCase 'E' => (⟨none, none⟩, out)
    | .letterCase 'u' => ({ k with once := some true }, out)
    | .letterCase _ => ({ k with once := some false }, out)) (⟨none, none⟩, [])).2.reverse.flatten

/-- A line with the `n`-th match replaced that is still to come, and those behind it if `all`; whether there
was any.  No match is taken that is empty and begins where the last one has ended. -/
def replace (fold : Bool) (r : Regex) (pieces : List Piece) (all : Bool) :
    Nat → Nat → Option Nat → Regex.Place → List Char × Bool
  | 0, _, _, p => (p.after, false)
  | fuel + 1, n, lastEnd, p =>
    match Regex.search fold r { p with groups := [] } with
    | none => (p.after, false)
    | some (a, b) =>
      let skipped := p.textTo a
      let isEmpty := a.column = b.column
      if isEmpty && lastEnd = some a.column then
        match a.after with
        | c :: after =>
          let (rest, changed) := replace fold r pieces all fuel n none (a.advance c after)
          (skipped ++ c :: rest, changed)
        | [] => (skipped, false)
      else
        let matched := a.textTo b
        let here := if n ≤ 1 then fill pieces matched b.groups else matched
        if n ≤ 1 && ! all then (skipped ++ here ++ b.after, true)
        else
          let (rest, changed) :=
            if isEmpty then
              match b.after with
              | c :: after =>
                let (rest, changed) := replace fold r pieces all fuel (n - 1) none (b.advance c after)
                (c :: rest, changed)
              | [] => ([], false)
            else replace fold r pieces all fuel (n - 1) (some b.column) b
          (skipped ++ here ++ rest, changed || n ≤ 1)

end Flowline.Shell.Sed
