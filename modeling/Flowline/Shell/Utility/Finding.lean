import Flowline.Shell.Pattern
import Flowline.Shell.Regex
import Flowline.Shell.Utility.Launching
import Flowline.Shell.Utility.Listing

/-!
# Finding files

`find`: every file below some directories is held against an expression, whose parts ask for something or do
something.
-/

namespace Flowline.Shell

namespace Finding

/-! ## Expressions -/

/-- A number that is compared with. -/
inductive Bound
  | exactly (n : Nat)
  | more (n : Nat)
  | less (n : Nat)

def Bound.holds (b : Bound) (n : Nat) : Bool :=
  match b with
  | exactly m => n = m
  | more m => m < n
  | less m => n < m

inductive Criterion
  | always (b : Bool)
  | name (fold : Bool) (p : Pattern)
  | path (fold : Bool) (p : Pattern)
  | target (fold : Bool) (p : Pattern)
  | regex (fold : Bool) (r : Regex)
  /-- Being something that one of some letters stands for. -/
  | kind (letters : List Char)
  | empty
  /-- The size in units of so many bytes. -/
  | size (unit : Nat) (b : Bound)
  /-- Changed after a time. -/
  | newer (time : Nat)
  /-- The age in units of so many milliseconds. -/
  | age (unit : Nat) (b : Bound)
  /-- The permissions: all of them, at least them, or any of them. -/
  | mode (how : Option Char) (bits : Nat)
  | access (bit : Nat)
  | links (b : Bound)
  | number (b : Bound)
  | sameAs (number : Nat)
  | not (q : Criterion)
  | both (a b : Criterion)
  | either (a b : Criterion)
  /-- The first counts for nothing. -/
  | comma (a b : Criterion)
  | print (stop : String)
  | printf (format : List Char)
  | printTo (path : String) (stop : String)
  | list
  /-- Runs a program, in the directory of the file if `inside`. -/
  | exec (inside : Bool) (argv : List String)
  /-- Runs a program at the end with all files, which a number stands for. -/
  | execAll (id : Nat) (argv : List String)
  | delete
  | prune
  | quit

/-- How expressions for paths are written. -/
inductive Form
  | basic
  | extended
  /-- Groups and alternatives have backslashes, repetitions have none. -/
  | mixed

def forms : List (String × Form) := [("findutils-default", .mixed), ("ed", .basic), ("emacs", .mixed),
  ("gnu-awk", .extended), ("grep", .basic), ("posix-awk", .extended), ("awk", .extended), ("posix-basic", .basic),
  ("posix-egrep", .extended), ("egrep", .extended), ("posix-extended", .extended), ("posix-minimal-basic", .basic),
  ("sed", .basic)]

inductive Fault
  | unknownPredicate (s : String)
  | missingArgument (s : String)
  | unknownKind (s : String)
  | badDepth (option value : String)
  | badSize (s : String)
  | badMode (s : String)
  | badNumber (option value : String)
  | noFile (s : String) (e : OsError)
  | nothingBefore (operator : String)
  | nothingAfter (operator : String)
  | unclosed
  | tooManyClosed
  | emptyParentheses
  | lateFile (s : String)
  | badRegex (s : String) (f : Regex.Fault)
  | unknownForm (s : String)

def Fault.message : Fault → String
  | unknownPredicate s => "unknown predicate \x60" ++ s ++ "'"
  | missingArgument s => "missing argument to \x60" ++ s ++ "'"
  | unknownKind s => "Unknown argument to -type: " ++ s
  | badDepth option value => "Expected a positive decimal integer argument to " ++ option ++ ", but got " ++ Quotation.always value
  | badSize s => "invalid -size type \x60" ++ s ++ "'"
  | badMode s => "invalid mode " ++ Quotation.always s
  | badNumber option value => "invalid argument \x60" ++ value ++ "' to \x60" ++ option ++ "'"
  | noFile s e => Quotation.always s ++ ": " ++ e.text
  | nothingBefore operator => "invalid expression; you have used a binary operator '" ++ operator ++ "' with nothing before it."
  | nothingAfter operator => "expected an expression after '" ++ operator ++ "'"
  | unclosed => "invalid expression; I was expecting to find a ')' somewhere but did not see one."
  | tooManyClosed => "you have too many ')'"
  | emptyParentheses => "invalid expression; empty parentheses are not allowed."
  | lateFile s => "paths must precede expression: \x60" ++ s ++ "'"
  | badRegex s f => "failed to compile regular expression " ++ Quotation.always s ++ ": " ++ f.message
  | unknownForm s => "Unknown regular expression type " ++ Quotation.always s ++ "; valid types are " ++
      String.intercalate ", " (forms.map fun (name, _) => Quotation.always name) ++ "."

/-! ## Reading expressions -/

/-- What an expression may refer to. -/
structure Scene where
  files : Files
  directory : String
  now : Nat

/-- The words that are left, and what holds for the whole search. -/
structure Cursor where
  words : List String
  most : Option Nat
  least : Nat
  depthFirst : Bool
  /-- The calls that come at the end. -/
  calls : Nat
  /-- Something is done besides asking. -/
  acts : Bool
  form : Form

abbrev Parser := StateT Cursor (Except Fault)

def peek : Parser (Option String) := do return (← get).words.head?

def drop (n : Nat) : Parser Unit := modify fun c => { c with words := c.words.drop n }

def argument (option : String) : Parser String := do
  match (← get).words with
  | w :: rest =>
    modify fun c => { c with words := rest }
    return w
  | [] => throw (.missingArgument option)

def bound? (s : String) : Option Bound :=
  let digits (cs : List Char) : Option Nat :=
    if cs.isEmpty || ! cs.all Char.isDigit then none else some (Text.digitsValue cs)
  match s.toList with
  | '+' :: cs => (digits cs).map .more
  | '-' :: cs => (digits cs).map .less
  | cs => (digits cs).map .exactly

def bound (option : String) : Parser Bound := do
  let s ← argument option
  match bound? s with
  | some b => return b
  | none => throw (.badNumber option s)

def patternOf (fold : Bool) (s : String) : Pattern :=
  Pattern.ofWord (s.toList.map fun c => (if fold then c.toLower else c, false))

/-- A mixed expression as an extended one. -/
def asExtended : Nat → List Char → List Char
  | 0, cs => cs
  | _, [] => []
  | fuel + 1, '\\' :: c :: cs =>
    (if c = '(' || c = ')' || c = '|' then [c] else ['\\', c]) ++ asExtended fuel cs
  | fuel + 1, '[' :: cs =>
    let start := cs.takeWhile (· = '^')
    let first := (cs.drop start.length).take 1
    let inner := (cs.drop (start.length + 1)).takeWhile (· ≠ ']')
    '[' :: start ++ first ++ inner ++ asExtended fuel (cs.drop (start.length + first.length + inner.length))
  | fuel + 1, c :: cs =>
    (if c = '(' || c = ')' || c = '|' || c = '\x7b' || c = '\x7d' then ['\\', c] else [c]) ++ asExtended fuel cs

def sizeQuery (s : String) : Parser Criterion := do
  let units : List (Char × Nat) := [('c', 1), ('w', 2), ('b', 512), ('k', 1024), ('M', 1048576), ('G', 1073741824)]
  let cs := s.toList
  let (unit, digits) := match cs.getLast? with
    | some c =>
      match units.lookup c with
      | some n => (n, cs.dropLast)
      | none => (512, cs)
    | none => (512, cs)
  match bound? (String.ofList digits) with
  | some b => return .size unit b
  | none => throw (.badSize s)

def modeQuery (s : String) : Parser Criterion := do
  let (how, text) := match s.toList with
    | '-' :: cs => (some '-', String.ofList cs)
    | '/' :: cs => (some '/', String.ofList cs)
    | _ => (none, s)
  match (Permissions.octal? text).or (Permissions.apply 0 false 0 text) with
  | some bits => return .mode how bits
  | none => throw (.badMode s)

/-- The words of a command up to a semicolon, or up to a plus sign behind braces. -/
def commandWords (option : String) : Nat → List String → Parser (List String × Bool)
  | 0, _ => throw (.missingArgument option)
  | fuel + 1, found => do
    match (← get).words with
    | [] => throw (.missingArgument option)
    | w :: rest =>
      modify fun c => { c with words := rest }
      if w = ";" then
        if found.isEmpty then throw (.missingArgument option)
        return (found.reverse, false)
      if w = "+" && found.head? = some "\x7b\x7d" then return (found.reverse.dropLast, true)
      commandWords option fuel (w :: found)

def act (q : Criterion) : Parser Criterion := do
  modify fun c => { c with acts := true }
  return q

/-- One test or action. -/
def primary (scene : Scene) (word : String) : Parser Criterion := do
  let timeOf (s : String) : Parser Nat := do
    match scene.files.find true scene.directory s with
    | .ok name => return ((scene.files.node? name).map Node.time).getD 0
    | .error e => throw (.noFile s e)
  let day : Nat := 86400000
  let minute : Nat := 60000
  match word with
  | "-true" => return .always true
  | "-false" => return .always false
  | "-name" => return .name false (patternOf false (← argument word))
  | "-iname" => return .name true (patternOf true (← argument word))
  | "-path" | "-wholename" => return .path false (patternOf false (← argument word))
  | "-ipath" | "-iwholename" => return .path true (patternOf true (← argument word))
  | "-lname" => return .target false (patternOf false (← argument word))
  | "-ilname" => return .target true (patternOf true (← argument word))
  | "-regex" | "-iregex" =>
    let s ← argument word
    let r? := match (← get).form with
      | .basic => Regex.parse? { extended := false, strict := false } s
      | .extended => Regex.parse? { extended := true, strict := false } s
      | .mixed => Regex.parse? { extended := true, strict := false } (String.ofList (asExtended (s.length + 1) s.toList))
    match r? with
    | .ok r => return .regex (word = "-iregex") r
    | .error f => throw (.badRegex s f)
  | "-type" | "-xtype" =>
    let s ← argument word
    let letters := (Text.split ',' s).map String.toList
    match letters.find? fun cs => cs.length ≠ 1 || ! cs.all "fdlbcps".toList.contains with
    | some _ => throw (.unknownKind s)
    | none => return .kind letters.flatten
  | "-empty" => return .empty
  | "-size" => sizeQuery (← argument word)
  | "-newer" => return .newer (← timeOf (← argument word))
  | "-mtime" | "-atime" | "-ctime" => return .age day (← bound word)
  | "-mmin" | "-amin" | "-cmin" => return .age minute (← bound word)
  | "-perm" => modeQuery (← argument word)
  | "-readable" => return .access 4
  | "-writable" => return .access 2
  | "-executable" => return .access 1
  | "-links" => return .links (← bound word)
  | "-inum" => return .number (← bound word)
  | "-samefile" =>
    let s ← argument word
    match scene.files.find false scene.directory s with
    | .ok name => return .sameAs ((scene.files.number? name).getD 0)
    | .error e => throw (.noFile s e)
  | "-user" | "-group" | "-uid" | "-gid" =>
    let s ← argument word
    return .always (s = "root" || s = "0")
  | "-nouser" | "-nogroup" => return .always false
  | "-maxdepth" | "-mindepth" =>
    let s ← argument word
    if s = "" || ! s.toList.all Char.isDigit then throw (.badDepth word s)
    let n := Text.digitsValue s.toList
    modify fun c => if word = "-maxdepth" then { c with most := some n } else { c with least := n }
    return .always true
  | "-depth" | "-d" =>
    modify fun c => { c with depthFirst := true }
    return .always true
  | "-xdev" | "-mount" | "-noleaf" | "-follow" | "-daystart" | "-warn" | "-nowarn" => return .always true
  | "-regextype" =>
    let name ← argument word
    match forms.lookup name with
    | some form =>
      modify fun c => { c with form }
      return .always true
    | none => throw (.unknownForm name)
  | "-print" => act (.print "\n")
  | "-print0" => act (.print "\x00")
  | "-printf" =>
    let s ← argument word
    act (.printf s.toList)
  | "-fprint" =>
    let s ← argument word
    act (.printTo s "\n")
  | "-fprint0" =>
    let s ← argument word
    act (.printTo s "\x00")
  | "-ls" => act .list
  | "-exec" | "-execdir" | "-ok" | "-okdir" =>
    let (argv, isAll) ← commandWords word ((← get).words.length + 1) []
    if word = "-ok" || word = "-okdir" then act (.always false)
    else if isAll then
      let id := (← get).calls
      modify fun c => { c with calls := id + 1 }
      act (.execAll id argv)
    else act (.exec (word = "-execdir") argv)
  | "-delete" =>
    modify fun c => { c with depthFirst := true }
    act .delete
  | "-prune" => return .prune
  | "-quit" => act .quit
  | w =>
    if w.toList.head? = some '-' then throw (.unknownPredicate w) else throw (.lateFile w)

mutual

/-- Expressions of which the last counts. -/
def whole (scene : Scene) : Nat → Parser Criterion
  | 0 => throw .unclosed
  | fuel + 1 => do
    let a ← alternatives scene fuel
    if (← peek) = some "," then
      drop 1
      if (← peek).isNone then throw (.nothingAfter ",")
      return .comma a (← whole scene fuel)
    else return a

def alternatives (scene : Scene) : Nat → Parser Criterion
  | 0 => throw .unclosed
  | fuel + 1 => do
    let a ← sequence scene fuel
    match ← peek with
    | some w =>
      if w = "-o" || w = "-or" then
        drop 1
        if (← peek).all (· = ")") then throw (.nothingAfter w)
        return .either a (← alternatives scene fuel)
      else return a
    | none => return a

def sequence (scene : Scene) : Nat → Parser Criterion
  | 0 => throw .unclosed
  | fuel + 1 => do
    let a ← single scene fuel
    match ← peek with
    | none => return a
    | some w =>
      if w = "-a" || w = "-and" then
        drop 1
        if (← peek).all (· = ")") then throw (.nothingAfter w)
        return .both a (← sequence scene fuel)
      else if w = "-o" || w = "-or" || w = ")" || w = "," then return a
      else return .both a (← sequence scene fuel)

def single (scene : Scene) : Nat → Parser Criterion
  | 0 => throw .unclosed
  | fuel + 1 => do
    match (← get).words with
    | [] => throw .unclosed
    | w :: rest =>
      modify fun c => { c with words := rest }
      if w = "!" || w = "-not" then
        if rest.isEmpty then throw (.nothingAfter w)
        return .not (← single scene fuel)
      else if w = "(" then
        if rest.head? = some ")" then throw .emptyParentheses
        if rest.isEmpty then throw .unclosed
        let q ← whole scene fuel
        if (← peek) = some ")" then
          drop 1
          return q
        else throw .unclosed
      else if w = ")" then throw .tooManyClosed
      else if ["-o", "-or", "-a", "-and", ","].contains w then throw (.nothingBefore w)
      else primary scene w

end

/-- The expression that some words write. -/
def parse (scene : Scene) (words : List String) : Except Fault (Criterion × Cursor) := do
  let start : Cursor := ⟨words, none, 0, false, 0, false, .mixed⟩
  if words.isEmpty then return (.print "\n", start)
  let (q, c) ← (whole scene (8 * words.length + 16)).run start
  if ! c.words.isEmpty then throw .tooManyClosed
  return (if c.acts then q else .both q (.print "\n"), c)

/-! ## Files -/

/-- A file that has been found. -/
structure Hit where
  /-- The path by which it was found. -/
  path : String
  /-- Where the search has started. -/
  top : String
  depth : Nat
  full : String
  number : Nat
  node : Node

/-- The last part of a path. -/
def lastPart (path : String) : String :=
  let short := Files.dropSlashes path
  if short = "/" then "/" else (Text.split '/' short).getLast?.getD ""

/-- The part of a path before the last one. -/
def frontPart (path : String) : String :=
  let cs := (Files.dropSlashes path).toList.reverse
  if ! cs.contains '/' then "." else String.ofList ((cs.dropWhile (· ≠ '/')).drop 1).reverse

/-- The path from the start of the search on. -/
def Hit.inner (f : Hit) : String :=
  let cs := f.path.toList.drop f.top.length
  String.ofList (if cs.head? = some '/' then cs.drop 1 else cs)

/-- What a directive of `-printf` stands for. -/
def Hit.field (fs : Files) (f : Hit) (c : Char) : String :=
  match c with
  | 'p' => f.path
  | 'f' => lastPart f.path
  | 'h' => frontPart f.path
  | 'P' => f.inner
  | 'H' => f.top
  | 's' => toString f.node.size
  | 'd' => toString f.depth
  | 'm' => String.ofList (Nat.toDigits 8 f.node.mode)
  | 'M' => f.node.modeText
  | 'y' => if f.node.kindLetter = '-' then "f" else String.ofList [f.node.kindLetter]
  | 'l' => match f.node.content with
    | .link t => t
    | _ => ""
  | 'u' | 'g' => "root"
  | 'U' | 'G' => "0"
  | 'n' => toString (Exec.linkCount fs ⟨f.path, f.full, f.node, f.number⟩)
  | 'i' => toString (f.number + 1000)
  | 'k' => toString f.node.kilobytes
  | 'b' => toString (2 * f.node.kilobytes)
  | '%' => "%"
  | c => String.ofList ['%', c]

/-- A format filled in for a file. -/
def Hit.render (fs : Files) (f : Hit) : Nat → List Char → String
  | 0, _ => ""
  | _, [] => ""
  | fuel + 1, '%' :: cs =>
    let left := cs.head? = some '-'
    let cs := if left then cs.drop 1 else cs
    let digits := cs.takeWhile Char.isDigit
    let width := Text.digitsValue digits
    match cs.drop digits.length with
    | 'T' :: '@' :: rest => toString (f.node.time / 1000) ++ ".0000000000" ++ f.render fs fuel rest
    | c :: rest =>
      let s := f.field fs c
      (if left then padRight width s else padLeft width s) ++ f.render fs fuel rest
    | [] => "%"
  | fuel + 1, '\\' :: cs =>
    match cs with
    | 'c' :: _ => ""
    | c :: rest =>
      if Format.isOctal c then
        let (d, rest) := Format.octal cs
        String.ofList [d] ++ f.render fs fuel rest
      else
        match Format.escape? c with
        | some d => String.ofList [d] ++ f.render fs fuel rest
        | none => String.ofList ['\\', c] ++ f.render fs fuel rest
    | [] => "\\"
  | fuel + 1, c :: cs => String.ofList [c] ++ f.render fs fuel cs

/-- The letter for what a file is. -/
def Hit.kind (f : Hit) : Char := if f.node.kindLetter = '-' then 'f' else f.node.kindLetter

/-- What a search has come to: the files for calls at the end, and whether it is over. -/
structure Progress where
  gathered : List (Nat × String)
  quit : Bool

end Finding

namespace Exec

open Finding

section Finding

variable (launch : String → List String → Exec OsError)

/-- Runs a program and waits for it; whether it succeeds. -/
def runFor (argv : List String) (directory : Option String) : Exec Bool := do
  flush
  let p ← get
  let body : Exec Unit := do
    match directory with
    | some d => modify fun q => { q with directory := d }
    | none => pure ()
    executeOr launch Quotation.always argv
  let pid ← fork p body
  return (← awaitChild pid) = .exited 0

/-- Removes a file. -/
def deleteFound (f : Hit) : Exec Bool := do
  let fs ← files
  if f.path = "." then return true
  if f.node.isDirectory && ! (fs.entries f.full).isEmpty then
    complain ("cannot delete " ++ Quotation.always f.path ++ ": " ++ OsError.notEmpty.text)
    failWith 1
    return false
  changeFiles (·.remove f.full)
  return true

/-- The line that `-ls` writes. -/
def listingOf (fs : Files) (now : Nat) (f : Hit) : String :=
  padLeft 9 (toString (f.number + 1000)) ++ " " ++ padLeft 6 (toString f.node.kilobytes) ++ " " ++ f.node.modeText ++ " " ++
    padLeft 3 (toString (linkCount fs ⟨f.path, f.full, f.node, f.number⟩)) ++ " root     root     " ++
    padLeft 8 (toString f.node.size) ++ " " ++ listedTime now f.node.time ++ " " ++ f.path ++ "\n"

/-- Holds a file against an expression; whether that holds, and whether what is below is left out. -/
def evaluate (f : Hit) : Criterion → Progress → Exec (Bool × Bool × Progress)
  | .always b, s => return (b, false, s)
  | .name fold p, s => return (p.matchesAll (cased fold (lastPart f.path)), false, s)
  | .path fold p, s => return (p.matchesAll (cased fold f.path), false, s)
  | .target fold p, s =>
    match f.node.content with
    | .link t => return (p.matchesAll (cased fold t), false, s)
    | _ => return (false, false, s)
  | .regex fold r, s =>
    return ((Regex.ends fold r.hasAgain r (Regex.start f.path)).any fun q => q.after.isEmpty, false, s)
  | .kind letters, s => return (letters.contains f.kind, false, s)
  | .empty, s => do
    let fs ← files
    return (match f.node.content with
      | .directory => (fs.entries f.full).isEmpty
      | .text t => t = ""
      | _ => false, false, s)
  | .size unit b, s => return (b.holds ((f.node.size + unit - 1) / unit), false, s)
  | .newer time, s => return (time < f.node.time, false, s)
  | .age unit b, s => do return (b.holds (((← world).clock - f.node.time) / unit), false, s)
  | .mode how bits, s =>
    let own := Nat.land f.node.mode 0o7777
    return (match how with
      | none => own = bits
      | some '-' => Nat.land own bits = bits
      | some _ => bits = 0 || Nat.land own bits ≠ 0, false, s)
  | .access bit, s =>
    return (bit ≠ 1 || f.node.isDirectory || f.node.isExecutable, false, s)
  | .links b, s => do return (b.holds (linkCount (← files) ⟨f.path, f.full, f.node, f.number⟩), false, s)
  | .number b, s => return (b.holds (f.number + 1000), false, s)
  | .sameAs n, s => return (f.number = n, false, s)
  | .not q, s => do
    let (b, pruned, s) ← evaluate f q s
    return (! b, pruned, s)
  | .both a b, s => do
    let (x, pruned, s) ← evaluate f a s
    if x && ! s.quit then
      let (y, also, s) ← evaluate f b s
      return (y, pruned || also, s)
    else return (false, pruned, s)
  | .either a b, s => do
    let (x, pruned, s) ← evaluate f a s
    if x || s.quit then return (x, pruned, s)
    else
      let (y, also, s) ← evaluate f b s
      return (y, pruned || also, s)
  | .comma a b, s => do
    let (_, pruned, s) ← evaluate f a s
    if s.quit then return (false, pruned, s)
    let (y, also, s) ← evaluate f b s
    return (y, pruned || also, s)
  | .print stop, s => do
    print (f.path ++ stop)
    return (true, false, s)
  | .printf format, s => do
    print (f.render (← files) (format.length + 1) format)
    return (true, false, s)
  | .printTo path stop, s => do
    match ← openFile path .addTo with
    | .ok h =>
      let _ ← writeTo h (f.path ++ stop)
    | .error _ => pure ()
    return (true, false, s)
  | .list, s => do
    let w ← world
    print (listingOf w.files w.clock f)
    return (true, false, s)
  | .exec inside argv, s => do
    let shown := if inside then "./" ++ lastPart f.path else f.path
    let argv := argv.map fun a => Text.replace a "\x7b\x7d" shown
    let b ← runFor launch argv (if inside then some (Files.parent f.full) else none)
    return (b, false, s)
  | .execAll id _, s => return (true, false, { s with gathered := (id, f.path) :: s.gathered })
  | .delete, s => do return (← deleteFound f, false, s)
  | .prune, s => return (true, true, s)
  | .quit, s => return (true, false, { s with quit := true })
where
  cased (fold : Bool) (s : String) : List Char := if fold then s.toList.map Char.toLower else s.toList

/-- Goes through a file and all below it. -/
def visit (q : Criterion) (c : Cursor) (follow : Bool) : Nat → String → String → Nat → Progress → Exec Progress
  | 0, _, _, _, s => return s
  | fuel + 1, top, path, depth, s => do
    if s.quit then return s
    work 1
    let fs ← files
    let p ← get
    let found := match if follow then fs.find true p.directory path else .error .notFound with
      | .ok name => Except.ok name
      | .error _ => fs.find false p.directory path
    match found with
    | .error e =>
      complain (Quotation.always path ++ ": " ++ e.text)
      failWith 1
      return s
    | .ok full =>
      match fs.node? full, fs.number? full with
      | some node, some number =>
        let f : Hit := ⟨path, top, depth, full, number, node⟩
        let here (s : Progress) : Exec (Bool × Progress) := do
          if depth < c.least then return (false, s)
          let (_, pruned, s) ← evaluate launch f q s
          return (pruned, s)
        let below (s : Progress) : Exec Progress := do
          if node.isDirectory && c.most.all (depth < ·) then
            let entries := (← files).entries full
            entries.foldlM (fun s name => visit q c follow fuel top (Flowline.Shell.below path name) (depth + 1) s) s
          else return s
        if c.depthFirst then
          let s ← below s
          if s.quit then return s
          return (← here s).2
        else
          let (pruned, s) ← here s
          if pruned || s.quit then return s else below s
      | _, _ => return s

/-- The calls at the end that an expression asks for. -/
def callsOf : Criterion → List (Nat × List String)
  | .execAll id argv => [(id, argv)]
  | .not q => callsOf q
  | .both a b => callsOf a ++ callsOf b
  | .either a b => callsOf a ++ callsOf b
  | .comma a b => callsOf a ++ callsOf b
  | _ => []

/-- The files that an expression writes to. -/
def outputsOf : Criterion → List String
  | .printTo path _ => [path]
  | .not q => outputsOf q
  | .both a b => outputsOf a ++ outputsOf b
  | .either a b => outputsOf a ++ outputsOf b
  | .comma a b => outputsOf a ++ outputsOf b
  | _ => []

def find (args : List String) : Exec Unit := do
  status 0
  let options := args.takeWhile fun a => ["-L", "-P", "-H"].contains a
  let args := args.drop options.length
  let isExpression (a : String) : Bool :=
    (a.toList.head? = some '-' && 1 < a.length) || ["(", ")", "!", ","].contains a
  let starts := args.takeWhile (! isExpression ·)
  let w ← world
  let p ← get
  match parse ⟨w.files, p.directory, w.clock⟩ (args.drop starts.length) with
  | .error fault =>
    complain fault.message
    status 1
  | .ok (q, c) =>
    for path in outputsOf q do
      match ← openFile path .write with
      | .ok _ => pure ()
      | .error e =>
        complain (Quotation.always path ++ ": " ++ e.text)
        status 1
        halt .ended
    let starts := if starts.isEmpty then ["."] else starts
    let done ← starts.foldlM (fun s start => visit launch q c (options.getLast? = some "-L") 4096 start start 0 s)
      (⟨[], false⟩ : Progress)
    for (id, argv) in callsOf q do
      let paths := (done.gathered.filter (·.1 = id)).reverse.map Prod.snd
      if ! paths.isEmpty then
        if ! (← runFor launch (argv ++ paths) none) then failWith 1

end Finding

end Exec

end Flowline.Shell
