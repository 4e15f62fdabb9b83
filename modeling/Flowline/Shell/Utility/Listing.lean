import Flowline.Shell.Format
import Flowline.Shell.Utility.Layout
import Flowline.Shell.Utility.Tree

/-!
# Listings

`ls` shows what is in directories, `stat` what is known of files.
-/

namespace Flowline.Shell

/-! ## Dates -/

def monthNames : List String := ["Jan", "Feb", "Mar", "Apr", "May", "Jun", "Jul", "Aug", "Sep", "Oct", "Nov", "Dec"]

def twoPlaces (n : Nat) : String := (if n < 10 then "0" else "") ++ toString n

/-- A time as listings show it: with the time of the day if it is less than half a year ago. -/
def listedTime (now time : Nat) : String :=
  let seconds := time / 1000
  let (year, month, day) := dateOf (seconds / 86400)
  let start := (monthNames[month - 1]?.getD "") ++ " " ++ padLeft 2 (toString day) ++ " "
  if time ≤ now && now - time < 15778476000 then
    start ++ twoPlaces (seconds / 3600 % 24) ++ ":" ++ twoPlaces (seconds / 60 % 60)
  else start ++ " " ++ toString year

/-! ## What is shown of files -/

namespace Node

/-- The letter for what a node is. -/
def kindLetter (n : Node) : Char :=
  match n.content with
  | .directory => 'd'
  | .link _ => 'l'
  | .device _ => 'c'
  | .fifo => 'p'
  | _ => '-'

/-- The letters for what a node is and what may be done with it. -/
def modeText (n : Node) : String := String.ofList [n.kindLetter] ++ Permissions.letters n.mode

def size (n : Node) : Nat :=
  match n.content with
  | .directory => 4096
  | .text s => s.length
  | .link t => t.length
  | .program _ => 65536
  | _ => 0

/-- The kilobytes that it takes on the disk. -/
def kilobytes (n : Node) : Nat :=
  match n.content with
  | .link _ => 0
  | _ => (n.size + 4095) / 4096 * 4

/-- What a node is, in words. -/
def kindText (n : Node) : String :=
  match n.content with
  | .directory => "directory"
  | .link _ => "symbolic link"
  | .device _ => "character special file"
  | .fifo => "fifo"
  | .text "" => "regular empty file"
  | _ => "regular file"

end Node

/-- The mark behind a name for what it is. -/
def markOf (a : Arguments) (n : Node) : String :=
  if a.has 'F' || a.has 'p' then
    match n.content with
    | .directory => "/"
    | .link _ => if a.has 'F' then "@" else ""
    | .fifo => if a.has 'F' then "|" else ""
    | _ => if a.has 'F' && n.isExecutable then "*" else ""
  else ""

/-- A name as it is shown. -/
def shownName (a : Arguments) (name : String) : String :=
  if a.has 'Q' then "\"" ++ String.join (name.toList.map fun c =>
    if c = '"' || c = '\\' then String.ofList ['\\', c]
    else if Quotation.isPrintable c then String.ofList [c] else Quotation.escape c) ++ "\""
  else if a.has 'b' then String.join (name.toList.map fun c =>
    if c = ' ' || c = '\\' then String.ofList ['\\', c]
    else if Quotation.isPrintable c then String.ofList [c] else Quotation.escape c)
  else if a.has 'q' then String.ofList (name.toList.map fun c => if Quotation.isPrintable c then c else '?')
  else name

/-- Something to be listed. -/
structure Item where
  name : String
  /-- Its canonical name. -/
  path : String
  node : Node
  number : Nat

/-- Items in the order that is asked for. -/
def orderItems (a : Arguments) (items : List Item) : List Item :=
  let byName (x y : Item) : Bool := x.name ≤ y.name
  let ending (x : Item) : String := String.ofList ((x.name.toList.reverse.takeWhile (· ≠ '.')).reverse)
  let sorted := match a.last? ['S', 't', 'U', 'X'] with
    | some 'S' => items.mergeSort fun x y => y.node.size < x.node.size || (x.node.size = y.node.size && byName x y)
    | some 't' => items.mergeSort fun x y => y.node.time < x.node.time || (x.node.time = y.node.time && byName x y)
    | some 'X' => items.mergeSort fun x y => ending x < ending y || (ending x = ending y && byName x y)
    | some _ => items
    | none => items.mergeSort byName
  if a.has 'r' then sorted.reverse else sorted

/-- A size with a unit. -/
def humanSize (n : Nat) : String :=
  if n < 1024 then toString n
  else
    let k := (n * 10 + 1023) / 1024
    if k < 100 then toString (k / 10) ++ "." ++ toString (k % 10) ++ "K"
    else if n < 1024 * 1024 then toString ((n + 1023) / 1024) ++ "K" else toString ((n + 1048575) / 1048576) ++ "M"

namespace Exec

/-- How many names lead to a node. -/
def linkCount (fs : Files) (item : Item) : Nat :=
  if item.node.isDirectory then 2 + ((fs.entries item.path).filter fun x => fs.isDirectory (below item.path x)).length
  else (fs.names.filter (·.2 = item.number)).length

/-- The lines of some items. -/
def itemLines (a : Arguments) (fs : Files) (now : Nat) (items : List Item) : List String :=
  let long := a.has 'l' || a.has 'n' || a.has 'o' || a.has 'g'
  let sizeText (i : Item) : String := match i.node.device? with
    | some d => toString d.numbers.1 ++ ", " ++ toString d.numbers.2
    | none => if a.has 'h' then humanSize i.node.size else toString i.node.size
  let width (f : Item → String) : Nat := (items.map fun i => (f i).length).foldl max 0
  let links (i : Item) : String := toString (linkCount fs i)
  let sizeWidth := width sizeText
  let linkWidth := width links
  let blockWidth := width fun i => toString i.node.kilobytes
  let inodeWidth := width fun i => toString (i.number + 1000)
  items.map fun i =>
    let start := (if a.has 'i' then padLeft inodeWidth (toString (i.number + 1000)) ++ " " else "") ++
      (if a.has 's' then padLeft blockWidth (toString i.node.kilobytes) ++ " " else "")
    let name := shownName a i.name
    if long then
      let owner := if a.has 'n' then "0" else "root"
      let target := match i.node.content with
        | .link t => " -> " ++ shownName a t
        | _ => markOf a i.node
      start ++ i.node.modeText ++ " " ++ padLeft linkWidth (links i) ++ (if a.has 'g' then "" else " " ++ owner) ++
        (if a.has 'o' || a.has 'G' then "" else " " ++ owner) ++ " " ++ padLeft sizeWidth (sizeText i) ++ " " ++
        listedTime now i.node.time ++ " " ++ name ++ target
    else start ++ name ++ markOf a i.node

/-- The text of some items. -/
def itemsText (a : Arguments) (fs : Files) (now : Nat) (items : List Item) : String :=
  let lines := itemLines a fs now (orderItems a items)
  if a.has 'm' then if lines.isEmpty then "" else String.intercalate ", " lines ++ "\n" else joinLines lines

/-- What is in a directory. -/
def directoryItems (a : Arguments) (fs : Files) (path : String) : List Item :=
  let entries := fs.entries path
  let item (name full : String) : Option Item :=
    match fs.node? full, fs.number? full with
    | some node, some number => some ⟨name, full, node, number⟩
    | _, _ => none
  let visible := if a.has 'a' || a.has 'A' || a.has 'f' then entries
    else entries.filter fun n => n.toList.head? ≠ some '.'
  let visible := if a.has 'B' then visible.filter fun n => n.toList.getLast? ≠ some '~' else visible
  (if a.has 'a' || a.has 'f' then [("." , path), ("..", Files.parent path)].filterMap fun (n, p) => item n p else []) ++
    visible.filterMap fun n => item n (below path n)

/-- The text of a directory, and of those below it if that is asked for. -/
def directoryTexts (a : Arguments) (fs : Files) (now : Nat) : Nat → String → String → List (String × String)
  | 0, _, _ => []
  | fuel + 1, name, path =>
    let items := directoryItems a fs path
    let long := a.has 'l' || a.has 'n' || a.has 'o' || a.has 'g' || a.has 's'
    let total := (items.map fun i => i.node.kilobytes).foldl (· + ·) 0
    let text := (if long then "total " ++ toString total ++ "\n" else "") ++ itemsText a fs now items
    let deeper := if a.has 'R' then
        (orderItems a items).filter fun i => i.node.isDirectory && i.name ≠ "." && i.name ≠ ".."
      else []
    (name, text) :: deeper.flatMap fun i => directoryTexts a fs now fuel (below name i.name) i.path

def ls (args : List String) : Exec Unit :=
  let names := [("all", 'a'), ("almost-all", 'A'), ("directory", 'd'), ("classify", 'F'), ("recursive", 'R'),
    ("reverse", 'r'), ("size", 's'), ("inode", 'i'), ("human-readable", 'h'), ("quote-name", 'Q'), ("color", '\x01'),
    ("escape", 'b'), ("dereference", 'L'), ("numeric-uid-gid", 'n'), ("no-group", 'G'), ("literal", 'N'),
    ("ignore-backups", 'B'), ("group-directories-first", '\x02')]
  withArguments { letters := "aAbBcCdfFgGhHiIklLmnNopqQrRsStT:uUvw:xXZ1\x01::\x02", names } 2 args fun a => do
    let w ← world
    let fs := w.files
    let follows := ! (a.has 'l' || a.has 'd' || a.has 'F') || a.has 'L'
    let mut plain : List Item := []
    let mut directories : List Item := []
    for name in (if a.operands.isEmpty then ["."] else a.operands) do
      let found ← do
        match ← locate follows name with
        | .ok full => pure (.ok full)
        | .error .notFound => locate false name
        | .error e => pure (.error e)
      match found with
      | .error e =>
        -- a directory that is gone has no entries
        if name ≠ "." then
          complain ("cannot access " ++ Quotation.always name ++ ": " ++ e.text)
          status 2
      | .ok full =>
        match fs.node? full, fs.number? full with
        | some node, some number =>
          let item : Item := ⟨name, full, node, number⟩
          if node.isDirectory && ! a.has 'd' then directories := directories ++ [item] else plain := plain ++ [item]
        | _, _ => pure ()
    let headed := 1 < a.operands.length || a.has 'R'
    let listed := (orderItems a directories).flatMap fun i => directoryTexts a fs w.clock (fs.names.length + 1) i.name i.path
    let texts := (if plain.isEmpty then [] else [itemsText a fs w.clock plain]) ++
      listed.map fun (name, text) => (if headed then name ++ ":\n" else "") ++ text
    print (String.intercalate "\n" texts)

/-! ## Single files -/

/-- What stands for a directive in a format of `stat`. -/
def statField (fs : Files) (name : String) (i : Item) (c : Char) : String :=
  match c with
  | 'n' => name
  | 'N' => Quotation.always name ++ (match i.node.content with
    | .link t => " -> " ++ Quotation.always t
    | _ => "")
  | 's' => toString i.node.size
  | 'a' => String.ofList (Nat.toDigits 8 i.node.mode)
  | 'A' => i.node.modeText
  | 'F' => i.node.kindText
  | 'U' => "root"
  | 'G' => "root"
  | 'u' => "0"
  | 'g' => "0"
  | 'h' => toString (linkCount fs i)
  | 't' => number Prod.fst
  | 'T' => number Prod.snd
  | 'i' => toString (i.number + 1000)
  | 'b' => toString (2 * i.node.kilobytes)
  | 'B' => "512"
  | 'o' => "4096"
  | 'X' => toString (i.node.time / 1000)
  | 'Y' => toString (i.node.time / 1000)
  | 'Z' => toString (i.node.time / 1000)
  | '%' => "%"
  | _ => "?"
where
  /-- A number of a device. -/
  number (which : Nat × Nat → Nat) : String :=
    String.ofList (Nat.toDigits 16 ((i.node.device?.map fun d => which d.numbers).getD 0))

/-- A text with its directives replaced. -/
def fillFormat (field : Char → String) : List Char → String
  | [] => ""
  | '%' :: c :: cs => field c ++ fillFormat field cs
  | c :: cs => String.ofList [c] ++ fillFormat field cs

def stat (args : List String) : Exec Unit :=
  let names := [("format", 'c'), ("printf", '\x01'), ("dereference", 'L'), ("terse", 't')]
  withArguments { letters := "c:fLt\x01:", names } 1 args fun a => do
    if a.operands.isEmpty then misuse "missing operand" 1
    for name in a.operands do
      let fs ← files
      match ← locate (a.has 'L') name with
      | .error e =>
        complain ("cannot statx " ++ Quotation.always name ++ ": " ++ e.text)
        failWith 1
      | .ok full =>
        match fs.node? full, fs.number? full with
        | some node, some number =>
          let field := statField fs name ⟨name, full, node, number⟩
          match a.get? '\x01', a.get? 'c' with
          | some format, _ =>
            let cs := format.toList
            print (fillFormat field (Format.unescape (cs.length + 1) cs).1)
          | none, format =>
            print (fillFormat field (format.getD "  File: %N\n  Size: %s\tBlocks: %b\tIO Block: %o   %F").toList ++ "\n")
        | _, _ => pure ()

end Exec

end Flowline.Shell
