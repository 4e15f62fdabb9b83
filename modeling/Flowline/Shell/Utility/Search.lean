import Flowline.Shell.Regex
import Flowline.Shell.Utility.Layout

/-!
# Searching for lines

`grep`: the lines of inputs that match patterns.
-/

namespace Flowline.Shell

/-! ## What is searched for -/

/-- What is searched for. -/
structure Query where
  patterns : List Regex
  fold : Bool
  /-- A match is a whole word. -/
  words : Bool
  /-- A match is a whole line. -/
  lines : Bool
  inverted : Bool

namespace Query

/-- Where the longest match at a place ends. -/
def matchAt (q : Query) (p : Regex.Place) : Option Regex.Place :=
  let isEnd (e : Regex.Place) : Bool :=
    (! q.lines || (p.column = 0 && e.after.isEmpty)) &&
      (! q.words || (! p.before.any Regex.isWordChar && ! e.after.head?.any Regex.isWordChar))
  q.patterns.foldl (fun best r =>
    match (Regex.ends q.fold r.hasAgain r p).find? isEnd, best with
    | some e, some b => if b.column < e.column then some e else some b
    | some e, none => some e
    | none, b => b) none

/-- The first match from a place on. -/
def search (q : Query) : Nat → Regex.Place → Option (Regex.Place × Regex.Place)
  | 0, _ => none
  | fuel + 1, p =>
    match q.matchAt p with
    | some e => some (p, e)
    | none =>
      match p.after with
      | c :: after => q.search fuel (p.advance c after)
      | [] => none

/-- Whether a line is one of those that are searched for. -/
def selects (q : Query) (line : String) : Bool :=
  let found := if q.lines || q.patterns.all Regex.startsAnywhere && ! q.words then
      (q.matchAt (Regex.start line)).isSome
    else (q.search (line.length + 1) (Regex.start line)).isSome
  found != q.inverted

/-- The matches in a line that are not empty, with their columns. -/
def matches_ (q : Query) : Nat → Regex.Place → List (Nat × String)
  | 0, _ => []
  | fuel + 1, p =>
    match q.search (p.after.length + 1) p with
    | none => []
    | some (a, e) =>
      if a.column = e.column then
        match e.after with
        | c :: after => q.matches_ fuel { e.advance c after with groups := [] }
        | [] => []
      else (a.column, String.ofList (a.textTo e)) :: q.matches_ fuel { e with groups := [] }

end Query

/-! ## How lines are shown -/

/-- How the lines that are found are shown. -/
structure Report where
  /-- Lines have the names of their inputs. -/
  named : Bool
  numbered : Bool
  offsets : Bool
  /-- Only the number of lines, or only the name of an input with some or without. -/
  counted : Bool
  listed : Option Bool
  onlyMatches : Bool
  quiet : Bool
  most : Option Nat
  before : Nat
  after : Nat
  hasContext : Bool
  text : Bool
  stop : Char
  /-- The parts of a line are marked with colours. -/
  coloured : Bool

/-- What has been seen of an input. -/
structure Seen where
  line : Nat
  offset : Nat
  hits : Nat
  /-- The lines just before that have not been shown, the latest first. -/
  waiting : List (Nat × Nat × String)
  /-- How many lines behind the last hit are still to be shown. -/
  trailing : Nat
  /-- The last line that was shown. -/
  shown : Nat

/-- Whether anything has been shown of an earlier input. -/
structure SearchState where
  any : Bool
  shownBefore : Bool

namespace Exec

/-- A text in a colour, if colours are asked for. -/
def inColour (r : Report) (colour text : String) : String :=
  if r.coloured then "\x1b[" ++ colour ++ "m\x1b[K" ++ text ++ "\x1b[m\x1b[K" else text

/-- A line with what stands before it; `mark` is a colon at a hit. -/
def labelled (r : Report) (name : String) (mark : String) (line offset : Nat) (text : String) : String :=
  let part (wanted : Bool) (colour text : String) : String :=
    if wanted then inColour r colour text ++ inColour r "36" mark else ""
  part r.named "35" name ++ part r.numbered "32" (toString line) ++ part r.offsets "32" (toString offset) ++ text ++
    String.ofList [r.stop]

/-- A line in which the matches are marked. -/
def highlighted (r : Report) (line : String) (found : List (Nat × String)) : String :=
  let (text, rest, _) := found.foldl (fun (text, rest, column) (place, s) =>
    (text ++ String.ofList (rest.take (place - column)) ++ inColour r "01;31" s,
      rest.drop (place - column + s.length), place + s.length)) ("", line.toList, 0)
  text ++ String.ofList rest

/-- Shows the lines that wait, after a mark where some have been left out. -/
def showWaiting (r : Report) (name : String) (gapBefore : Bool) (s : Seen) (upTo : Nat) : Exec Unit := do
  let waiting := (s.waiting.take r.before).reverse
  let first := (waiting.head?.map Prod.fst).getD upTo
  let gap := if s.shown = 0 then gapBefore else s.shown + 1 < first
  if r.hasContext && gap then print (inColour r "36" "--" ++ "\n")
  for (n, offset, text) in waiting do print (labelled r name "-" n offset text)

/-- Looks at one line; whether more are wanted. -/
def searchLine (q : Query) (r : Report) (name : String) (gapBefore binary : Bool) (s : Seen) (line : String) :
    Exec (Seen × Bool) := do
  let n := s.line + 1
  let next := { s with line := n, offset := s.offset + line.length + 1 }
  let isFull := r.most.any (· ≤ s.hits)
  if ! isFull && q.selects line then
    let hits := s.hits + 1
    let next := { next with hits }
    if r.quiet || r.listed.isSome then return (next, false)
    else if r.counted then return (next, ! r.most.any (· ≤ hits))
    else if binary then
      print ((← get).name ++ ": " ++ name ++ ": binary file matches\n")
      return (next, false)
    else
      if r.onlyMatches then
        if ! q.inverted then
          for (column, found) in q.matches_ (line.length + 1) (Regex.start line) do
            print (labelled r name ":" n (s.offset + column) (inColour r "01;31" found))
      else
        showWaiting r name gapBefore s n
        let shown := if r.coloured && ! q.inverted then
            highlighted r line (q.matches_ (line.length + 1) (Regex.start line))
          else line
        print (labelled r name ":" n s.offset shown)
      let more := ! r.most.any (· ≤ hits) || 0 < r.after
      return ({ next with waiting := [], trailing := r.after, shown := n }, more)
  else if 0 < s.trailing && ! r.onlyMatches then
    print (labelled r name "-" n s.offset line)
    return ({ next with trailing := s.trailing - 1, shown := n }, ! isFull || 1 < s.trailing)
  else
    return ({ next with waiting := ((n, s.offset, line) :: s.waiting).take r.before }, ! isFull)

/-- Searches one input. -/
def searchInput (q : Query) (r : Report) (name : String) (h : Handle) (state : SearchState) :
    Exec (Except OsError SearchState) := do
  let start : Seen := ⟨0, 0, 0, [], 0, 0⟩
  let step (binary : Bool) (s : Seen) (line : String) : Exec (Seen × Bool) :=
    searchLine q r name state.shownBefore binary s line
  let found ← foldBlocks h (fun ((s, carry, binary) : Seen × String × Bool) block => do
    let binary := binary || (! r.text && r.stop = '\n' && block.toList.contains '\x00')
    let ((s, carry), more) ← foldPieces (step binary) s carry (Text.split r.stop block)
    return ((s, carry, binary), more)) (start, "", false)
  match found with
  | .error e => return .error e
  | .ok (s, carry, binary) =>
    let s ← if carry = "" then pure s else do
      let (s, _) ← step binary s carry
      pure s
    if r.counted && ! r.quiet && r.listed.isNone then
      print ((if r.named then inColour r "35" name ++ inColour r "36" ":" else "") ++ toString s.hits ++ "\n")
    match r.listed with
    | some wanted => if (0 < s.hits) = wanted && ! r.quiet then print (inColour r "35" name ++ "\n")
    | none => pure ()
    let success := match r.listed with
      | some wanted => (0 < s.hits) = wanted
      | none => 0 < s.hits
    return .ok ⟨state.any || success, state.shownBefore || 0 < s.shown⟩

/-! ## The command -/

/-- Which files are looked at below a directory, by patterns for their names. -/
structure Selection where
  wanted : List Pattern
  unwanted : List Pattern
  unwantedDirectories : List Pattern

/-- Whether a file or a directory of a name is looked at. -/
def Selection.admits (s : Selection) (isDirectory : Bool) (name : String) : Bool :=
  if isDirectory then ! s.unwantedDirectories.any (·.matchesAll name.toList)
  else (s.wanted.isEmpty || s.wanted.any (·.matchesAll name.toList)) && ! s.unwanted.any (·.matchesAll name.toList)

/-- The files below a name, in order; directories are gone through. -/
def filesBelow (fs : Files) (directory : String) (s : Selection) : Nat → String → List String
  | 0, _ => []
  | fuel + 1, path =>
    match fs.lookup? directory path with
    | some n =>
      if n.isDirectory then
        match fs.find true directory path with
        | .ok full => (fs.entries full).flatMap fun x =>
            let inner := if path.toList.getLast? = some '/' then path ++ x else path ++ "/" ++ x
            if s.admits ((fs.lookup? directory inner).any Node.isDirectory) x then filesBelow fs directory s fuel inner
            else []
        | .error _ => []
      else [path]
    | none => [path]

/-- What `grep` is called with, or what is wrong with it. -/
def queryOf (a : Arguments) (patterns : List String) : Except Regex.Fault Query := do
  let d : Regex.Dialect := ⟨a.has 'E' || a.has 'P', false, true⟩
  let isFixed := a.last? ['E', 'F', 'G', 'P'] = some 'F'
  let rs ← patterns.mapM fun s => if isFixed then pure (Regex.literal s) else Regex.parse? d s
  return {
    patterns := rs
    fold := a.has 'i' || a.has 'y'
    words := a.has 'w' && ! a.has 'x'
    lines := a.has 'x'
    inverted := a.has 'v' }

/-- What is said about repetitions in an extended expression that have nothing to repeat; `atStart` until
something has come that can be repeated. -/
def startWarnings : Nat → Bool → List Char → List String
  | 0, _, _ => []
  | _, _, [] => []
  | fuel + 1, _, '\\' :: cs => startWarnings fuel false (cs.drop 1)
  | fuel + 1, _, '(' :: cs => startWarnings fuel true cs
  | fuel + 1, _, '|' :: cs => startWarnings fuel true cs
  | fuel + 1, atStart, '^' :: cs => startWarnings fuel atStart cs
  | fuel + 1, _, '[' :: cs =>
    let cs := if cs.head? = some '^' then cs.drop 1 else cs
    match Regex.bracketItems (cs.length + 1) true [] cs with
    | .ok (_, rest) => startWarnings fuel false rest
    | .error _ => []
  | fuel + 1, atStart, '\x7b' :: cs =>
    match (Regex.bounds { extended := true, strict := false } "\x7d").run ⟨cs, 0, []⟩ with
    | .ok (some _, c) =>
      (if atStart then ["\x7b...\x7d at start of expression"] else []) ++ startWarnings fuel atStart c.chars
    | _ => startWarnings fuel false cs
  | fuel + 1, atStart, c :: cs =>
    if c = '*' || c = '+' || c = '?' then
      (if atStart then [String.ofList [c] ++ " at start of expression"] else []) ++ startWarnings fuel atStart cs
    else startWarnings fuel false cs

def grepNames : List (String × Char) := [("extended-regexp", 'E'), ("fixed-strings", 'F'), ("basic-regexp", 'G'),
  ("perl-regexp", 'P'), ("regexp", 'e'), ("file", 'f'), ("ignore-case", 'i'), ("word-regexp", 'w'),
  ("line-regexp", 'x'), ("null-data", 'z'), ("no-messages", 's'), ("invert-match", 'v'), ("max-count", 'm'),
  ("byte-offset", 'b'), ("line-number", 'n'), ("with-filename", 'H'), ("no-filename", 'h'),
  ("only-matching", 'o'), ("quiet", 'q'), ("silent", 'q'), ("text", 'a'), ("recursive", 'r'),
  ("files-without-match", 'L'), ("files-with-matches", 'l'), ("count", 'c'), ("before-context", 'B'),
  ("after-context", 'A'), ("context", 'C'), ("color", '\x01'), ("colour", '\x01'), ("line-buffered", '\x02'),
  ("include", '\x03'), ("exclude", '\x04'), ("exclude-dir", '\x05'), ("directories", 'd'), ("null", 'Z'),
  ("label", '\x06'), ("binary-files", '\x07'), ("dereference-recursive", 'R'), ("initial-tab", 'T')]

/-- The options of digits alone, which ask for so many lines around the hits. -/
def contextOptions (args : List String) : List String :=
  args.map fun x => match x.toList with
    | '-' :: c :: cs => if (c :: cs).all Char.isDigit then "-C" ++ String.ofList (c :: cs) else x
    | _ => x

/-- The patterns of a search and the names of its inputs; nothing without a pattern. -/
def patternsOf (a : Arguments) : Exec (Option (List String × List String)) := do
  let files ← (a.all 'f').mapM fun name => do
    match ← if name = "-" then readAll 0 else readPath name with
    | .ok text => return splitLines text
    | .error e =>
      blame 2 true name e
      return []
  let given := (a.all 'e').flatMap (Text.split '\n') ++ files.flatten
  if a.has 'e' || a.has 'f' then return some (given, a.operands)
  else
    match a.operands with
    | [] => return none
    | p :: names => return some (Text.split '\n' p, names)

def grepWith (preset : List String) (args : List String) : Exec Unit := do
  modify fun p => { p with name := Files.lastPart p.name }
  let usage (message : Option String) : Exec Unit := do
    match message with
    | some m => complain m
    | none => pure ()
    tell 2 "Usage: grep [OPTION]... PATTERNS [FILE]...\nTry 'grep --help' for more information.\n"
    status 2
  let u : Usage := { letters := "EFGPe:f:iywxzsvVm:bnHhoqarRLlcB:A:C:UTZID:d:\x01::\x02\x03:\x04:\x05:\x06:\x07:", names := grepNames }
  match u.read (preset ++ contextOptions args) with
  | .error message => usage (some message)
  | .ok a =>
    status 0
    match ← patternsOf a with
    | none => usage none
    | some (patterns, names) =>
      let count (letter : Char) : Except Unit (Option Nat) :=
        match a.get? letter with
        | none => .ok none
        | some s => match integer? s with
          | some n => .ok (some n.toNat)
          | none => .error ()
      let bad (letter : Char) : Bool := match count letter with
        | .error _ => true
        | .ok _ => false
      let wrong := ['A', 'B', 'C'].find? bad
      match wrong with
      | some letter =>
        complain ((a.get? letter).getD "" ++ ": invalid context length argument")
        status 2
      | none =>
        if bad 'm' then
          complain "invalid max count"
          status 2
        else
          match queryOf a patterns with
          | .error fault =>
            complain fault.message
            status 2
          | .ok q =>
            let isExtended := a.last? ['E', 'F', 'G', 'P'] = some 'E'
            for s in if isExtended then patterns else [] do
              for warning in startWarnings (s.length + 1) true s.toList do complain ("warning: " ++ warning)
            searchAll a q names
where
  /-- Searches all inputs. -/
  searchAll (a : Arguments) (q : Query) (names : List String) : Exec Unit := do
    let number (letter : Char) : Option Nat := ((a.get? letter).bind integer?).map Int.toNat
    let recursive := a.has 'r' || a.has 'R' || a.get? 'd' = some "recurse"
    let patterns (letter : Char) : List Pattern :=
      (a.all letter).map fun s => Pattern.ofWord (s.toList.map (·, false))
    let chosen : Selection := ⟨patterns '\x03', patterns '\x04', patterns '\x05'⟩
    let p ← get
    let fs ← files
    let top := if names.isEmpty then if recursive then ["."] else ["-"] else names
    let inputs := if recursive then top.flatMap (filesBelow fs p.directory chosen (fs.names.length + 1))
      else if a.get? 'd' = some "skip" then top.filter fun x => ! (fs.lookup? p.directory x).any Node.isDirectory
      else top
    let inputs := inputs.filter fun x => x = "-" || recursive || chosen.admits false (Files.lastPart x)
    let inputs := if recursive && names.isEmpty then
        inputs.map fun x => String.ofList (if "./".toList.isPrefixOf x.toList then x.toList.drop 2 else x.toList)
      else inputs
    let context := (number 'C').getD 0
    let r : Report := {
      named := match a.last? ['H', 'h'] with
        | some 'H' => true
        | some _ => false
        | none => 1 < top.length || (recursive && ! (names.length = 1 && ! (fs.lookup? p.directory (names.headD "")).any Node.isDirectory))
      numbered := a.has 'n'
      offsets := a.has 'b'
      counted := a.has 'c'
      listed := (a.last? ['l', 'L']).map (· = 'l')
      onlyMatches := a.has 'o'
      quiet := a.has 'q'
      most := number 'm'
      before := if a.has 'o' then 0 else (number 'B').getD context
      after := if a.has 'o' then 0 else (number 'A').getD context
      hasContext := (a.has 'A' || a.has 'B' || a.has 'C') && ! a.has 'o'
      text := a.has 'a' || a.get? '\x07' = some "text"
      coloured := a.get? '\x01' = some "always"
      stop := if a.has 'z' then '\x00' else '\n' }
    let failed (_ : Bool) (name : String) (e : OsError) : Exec Unit := do
      if ! a.has 's' then complain (name ++ ": " ++ e.text)
      failWith 2
    let s ← foldInputs failed (fun s name h => do
      if r.quiet && s.any then return .ok s
      else searchInput q r (if name = "-" then (a.get? '\x06').getD "(standard input)" else name) h s) inputs ⟨false, false⟩
    if a.has 'q' && s.any then status 0
    else if (← get).status = 0 then status (if s.any then 0 else 1)

def grep (args : List String) : Exec Unit := grepWith [] args

end Exec

end Flowline.Shell
