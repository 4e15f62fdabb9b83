import Flowline.Shell.Utility.Input
import Flowline.Shell.Utility.Tree

/-!
# Comparing files

`cmp`, which finds the first difference, and `diff`, which finds the least number of lines to be removed and
added.
-/

namespace Flowline.Shell

namespace Difference

/-- A run of lines to be removed from the first text and added from the second, with their places, which
begin at 0. -/
structure Hunk where
  start : Nat
  removed : List String
  otherStart : Nat
  added : List String

/-- For every pair of tails of two lists how many lines they have in common at most: a row for each tail of
the first, the first row for the whole. -/
def table (same : String → String → Bool) (a b : Array String) : Array (Array Nat) :=
  let empty : Array Nat := Array.replicate (b.size + 1) 0
  let rows := (List.range a.size).foldl (fun (rows : List (Array Nat)) i =>
    let line := a[a.size - 1 - i]?.getD ""
    let below := rows.headD empty
    let row := (List.range b.size).foldl (fun (acc : List Nat) j =>
      let k := b.size - 1 - j
      let right := acc.headD 0
      let here := if same line (b[k]?.getD "") then 1 + (below[k + 1]?).getD 0
        else max right ((below[k]?).getD 0)
      here :: acc) [0]
    row.toArray :: rows) [empty]
  rows.toArray

/-- The hunks between two lists, along a table. -/
def walk (same : String → String → Bool) (t : Array (Array Nat)) :
    Nat → Nat → Nat → List String → List String → Option Hunk → List Hunk
  | 0, _, _, _, _, h => h.toList
  | fuel + 1, i, j, a, b, h =>
    let current := h.getD ⟨i, [], j, []⟩
    match a, b with
    | [], [] => h.toList
    | [], y :: ys => walk same t fuel i (j + 1) [] ys (some { current with added := current.added ++ [y] })
    | x :: xs, [] => walk same t fuel (i + 1) j xs [] (some { current with removed := current.removed ++ [x] })
    | x :: xs, y :: ys =>
      if same x y then h.toList ++ walk same t fuel (i + 1) (j + 1) xs ys none
      else
        let value (i j : Nat) : Nat := ((t[i]?).bind (·[j]?)).getD 0
        if value i (j + 1) ≤ value (i + 1) j then
          walk same t fuel (i + 1) j xs (y :: ys) (some { current with removed := current.removed ++ [x] })
        else walk same t fuel i (j + 1) (x :: xs) ys (some { current with added := current.added ++ [y] })

/-- How many lines at the start of two lists are the same. -/
def commonStart (same : String → String → Bool) : List String → List String → Nat
  | x :: xs, y :: ys => if same x y then 1 + commonStart same xs ys else 0
  | _, _ => 0

/-- The hunks that make a second list of lines out of a first. -/
def hunks (same : String → String → Bool) (a b : List String) : List Hunk :=
  let start := commonStart same a b
  let middle := a.drop start
  let other := b.drop start
  let stop := commonStart same middle.reverse other.reverse
  let middle := middle.take (middle.length - stop)
  let other := other.take (other.length - stop)
  -- what follows a hunk may let it move on
  let found := walk same (table same middle.toArray other.toArray) (middle.length + other.length + 1) 0 0 middle other none
  found.map fun h => { h with start := h.start + start, otherStart := h.otherStart + start }

/-- Moves a hunk that only removes or only adds behind lines that are the same as those that it begins with. -/
def Hunk.shift (same : String → String → Bool) (a : List String) (limit : Nat) : Nat → Hunk → Hunk
  | 0, h => h
  | fuel + 1, h =>
    let next? := a[h.start + h.removed.length]?
    let moved (lines : List String) : Option (List String) :=
      match lines, next? with
      | x :: rest, some y => if same x y && h.start + h.removed.length < limit then some (rest ++ [y]) else none
      | _, _ => none
    match h.removed, h.added with
    | removed, [] =>
      match moved removed with
      | some lines => Hunk.shift same a limit fuel ⟨h.start + 1, lines, h.otherStart + 1, []⟩
      | none => h
    | [], added =>
      match moved added with
      | some lines => Hunk.shift same a limit fuel ⟨h.start + 1, [], h.otherStart + 1, lines⟩
      | none => h
    | _, _ => h

/-- The hunks, moved as far as they can be. -/
def settled (same : String → String → Bool) (a b : List String) : List Hunk :=
  let hs := hunks same a b
  let limits := (hs.drop 1).map Hunk.start ++ [a.length]
  (hs.zip limits).map fun (h, limit) => h.shift same a limit (a.length + 1)

/-- The lines of a text, and whether the last one lacks its end. -/
def lines (text : String) : List String × Bool := (splitLines text, endsOpen text)

/-- Lines as they are shown, with a remark if the last one lacks its end. -/
def shown (mark : String) (ls : List String) (isOpen : Bool) : String :=
  joinLines (ls.map (mark ++ ·)) ++ if isOpen then "\\ No newline at end of file\n" else ""

/-- The numbers of some lines. -/
def range (start count : Nat) : String :=
  if count ≤ 1 then toString (start + count) else toString (start + 1) ++ "," ++ toString (start + count)

/-- A hunk as a command for an editor with the lines. -/
def Hunk.normal (h : Hunk) (aSize bSize : Nat) (aOpen bOpen : Bool) : String :=
  let m := h.removed.length
  let n := h.added.length
  let letter := if m = 0 then "a" else if n = 0 then "d" else "c"
  range h.start m ++ letter ++ range h.otherStart n ++ "\n" ++
    shown "< " h.removed (aOpen && h.start + m = aSize && 0 < m) ++ (if 0 < m && 0 < n then "---\n" else "") ++
    shown "> " h.added (bOpen && h.otherStart + n = bSize && 0 < n)

/-- Hunks that are so near that they share the lines around them. -/
def near (context : Nat) : List Hunk → List (List Hunk)
  | [] => []
  | h :: hs =>
    match near context hs with
    | [] => [[h]]
    | group :: rest =>
      match group with
      | next :: _ =>
        if next.start ≤ h.start + h.removed.length + 2 * context then (h :: group) :: rest
        else [h] :: group :: rest
      | [] => [h] :: rest

/-- The place of some lines in the head of a group. -/
def unifiedRange (start count : Nat) : String :=
  if count = 1 then toString (start + 1)
  else toString (if count = 0 then start else start + 1) ++ "," ++ toString count

/-- A group of hunks with the lines around them. -/
def unified (context : Nat) (a : List String) (bSize : Nat) (aOpen bOpen : Bool) (group : List Hunk) : String :=
  match group.head?, group.getLast? with
  | some first, some last =>
    let before := min context first.start
    let start := first.start - before
    let stop := min a.length (last.start + last.removed.length + context)
    let otherStart := first.otherStart - before
    let otherStop := last.otherStart + last.added.length + (stop - (last.start + last.removed.length))
    let plain (i j : Nat) : String := shown " " ((a.drop i).take (j - i)) (aOpen && j = a.length && i < j)
    let (body, i) := group.foldl (fun (text, i) h =>
      (text ++ plain i h.start ++
        shown "-" h.removed (aOpen && h.start + h.removed.length = a.length && ! h.removed.isEmpty) ++
        shown "+" h.added (bOpen && h.otherStart + h.added.length = bSize && ! h.added.isEmpty),
        h.start + h.removed.length)) ("", start)
    "@@ -" ++ unifiedRange start (stop - start) ++ " +" ++ unifiedRange otherStart (otherStop - otherStart) ++
      " @@\n" ++ body ++ plain i stop
  | _, _ => ""

/-- The place of some lines in a group that shows both texts. -/
def contextRange (start count : Nat) : String :=
  if count ≤ 1 then toString (start + count) else toString (start + 1) ++ "," ++ toString (start + count)

/-- A group of hunks with the lines around them, the first text before the second; lines that change are marked
as such, and a text of which nothing changes is left out. -/
def contextual (context : Nat) (a b : List String) (aOpen bOpen : Bool) (group : List Hunk) : String :=
  match group.head?, group.getLast? with
  | some first, some last =>
    let before := min context first.start
    let lastEnd := last.start + last.removed.length
    let otherEnd := last.otherStart + last.added.length
    let start := first.start - before
    let stop := min a.length (lastEnd + context)
    let otherStart := first.otherStart - before
    let otherStop := otherEnd + (stop - lastEnd)
    let side (ls : List String) (isOpen : Bool) (i j : Nat) (mark : String) (spans : List (Nat × Nat × Bool)) : String :=
      let lines (i j : Nat) (mark : String) : String :=
        shown mark ((ls.drop i).take (j - i)) (isOpen && j = ls.length && i < j)
      let (text, i) := spans.foldl (fun (text, i) (place, size, both) =>
        (text ++ lines i place "  " ++ lines place (place + size) (if both then "! " else mark), place + size)) ("", i)
      text ++ lines i j "  "
    let both (h : Hunk) : Bool := ! h.removed.isEmpty && ! h.added.isEmpty
    let removed := if group.all (·.removed.isEmpty) then ""
      else side a aOpen start stop "- " (group.map fun h => (h.start, h.removed.length, both h))
    let added := if group.all (·.added.isEmpty) then ""
      else side b bOpen otherStart otherStop "+ " (group.map fun h => (h.otherStart, h.added.length, both h))
    "***************\n*** " ++ contextRange start (stop - start) ++ " ****\n" ++ removed ++
      "--- " ++ contextRange otherStart (otherStop - otherStart) ++ " ----\n" ++ added
  | _, _ => ""

/-- A hunk as commands for the editor `ed`, which have to be carried out from the last one on. -/
def Hunk.forEditor (h : Hunk) : String :=
  let m := h.removed.length
  let letter := if m = 0 then "a" else if h.added.isEmpty then "d" else "c"
  range h.start m ++ letter ++ "\n" ++ if h.added.isEmpty then "" else joinLines h.added ++ ".\n"

/-- A hunk as commands that count lines. -/
def Hunk.counted (h : Hunk) : String :=
  let m := h.removed.length
  (if m = 0 then "" else "d" ++ toString (h.start + 1) ++ " " ++ toString m ++ "\n") ++
    if h.added.isEmpty then ""
    else "a" ++ toString (h.start + m) ++ " " ++ toString h.added.length ++ "\n" ++ joinLines h.added

/-- How lines are compared. -/
structure Rule where
  fold : Bool
  /-- Blanks do not count at all. -/
  noBlanks : Bool
  /-- The number of blanks does not count. -/
  fewBlanks : Bool
  blankLines : Bool

/-- A line with its blanks put together. -/
def squeeze : List Char → List Char
  | [] => []
  | c :: cs =>
    if isSpace c then
      match squeeze cs with
      | [] => []
      | ' ' :: rest => ' ' :: rest
      | rest => ' ' :: rest
    else c :: squeeze cs

def Rule.key (r : Rule) (line : String) : String :=
  let cs := line.toList
  let cs := if r.fold then cs.map Char.toLower else cs
  let cs := if r.noBlanks then cs.filter (! isSpace ·) else if r.fewBlanks then squeeze cs else cs
  String.ofList cs

end Difference

namespace Exec

open Difference

/-- A message of a program that names itself again where it offers help. -/
def misuseOf (message : String) : Exec Unit := do
  complain message
  let p ← get
  complain ("Try '" ++ p.name ++ " --help' for more information.")
  status 2

/-- Runs a program that compares, with its arguments taken apart. -/
def withComparison (u : Usage) (args : List String) (run : Arguments → Exec Unit) : Exec Unit := do
  match u.read args with
  | .ok a =>
    status 0
    run a
  | .error message => misuseOf message

/-- The text of an input. -/
def inputText (name : String) : Exec (Except OsError String) := do
  match ← openInput name with
  | .error e => return .error e
  | .ok h => holding h (readToEnd h manyBlocks [])

/-! ## `cmp` -/

/-- The places where two texts differ, with the line of each, from a place on. -/
def differences : Nat → Nat → List Char → List Char → List (Nat × Nat × Char × Char)
  | n, line, x :: xs, y :: ys =>
    let rest := differences (n + 1) (if x = '\n' then line + 1 else line) xs ys
    if x = y then rest else (n, line, x, y) :: rest
  | _, _, _, _ => []

def octalOf (c : Char) : String := padded (String.ofList (Nat.toDigits 8 c.toNat))
where padded (s : String) : String := String.ofList (List.replicate (3 - s.length) ' ') ++ s

/-- A number of bytes to pass over in both texts, or in each. -/
def skips (text : String) : Nat × Nat :=
  match Text.split ':' text with
  | [a, b] => (a.toNat?.getD 0, b.toNat?.getD 0)
  | _ => (text.toNat?.getD 0, text.toNat?.getD 0)

def cmp (args : List String) : Exec Unit :=
  let names := [("silent", 's'), ("quiet", 's'), ("verbose", 'l'), ("print-bytes", 'b'), ("bytes", 'n'), ("ignore-initial", 'i')]
  withComparison { letters := "bi:ln:s", names } args fun a => do
    match a.operands with
    | [] => misuseOf ("missing operand after " ++ Quotation.always (← get).name)
    | first :: rest =>
      let second := rest.headD "-"
      let unreadable (name : String) (e : OsError) : Exec Unit := do
        if ! a.has 's' then complain (name ++ ": " ++ e.text)
        status 2
      match ← inputText first with
      | .error e => unreadable first e
      | .ok x =>
        match ← inputText second with
        | .error e => unreadable second e
        | .ok y =>
          let (m, n) := skips ((a.get? 'i').getD "0")
          let limit (cs : List Char) : List Char := match (a.get? 'n').bind String.toNat? with
            | some n => cs.take n
            | none => cs
          let x := limit (x.toList.drop m)
          let y := limit (y.toList.drop n)
          let found := differences 1 1 x y
          let both := min x.length y.length
          if a.has 's' then status (if found.isEmpty && x.length = y.length then 0 else 1)
          else if a.has 'l' then
            let width := (toString (max x.length y.length)).length
            for (n, _, c, d) in found do
              let place := toString n
              print (String.ofList (List.replicate (width - place.length) ' ') ++ place ++ " " ++ octalOf c ++ " " ++ octalOf d ++ "\n")
            if ! found.isEmpty then status 1
            flush
            endOf first second x y both false
          else
            match found with
            | (n, line, c, d) :: _ =>
              let tail := if a.has 'b' then " is " ++ octalOf c ++ " " ++ String.ofList [c] ++ " " ++ octalOf d ++ " " ++ String.ofList [d]
                else ""
              print (first ++ " " ++ second ++ " differ: " ++ (if a.has 'b' then "byte " else "char ") ++ toString n ++
                ", line " ++ toString line ++ tail ++ "\n")
              status 1
            | [] => endOf first second x y both true
where
  /-- Says which text ends first. -/
  endOf (first second : String) (x y : List Char) (both : Nat) (lines : Bool) : Exec Unit := do
    if x.length ≠ y.length then
      let name := if x.length < y.length then first else second
      let seen := x.take both
      let line := (seen.filter (· = '\n')).length
      complain ("EOF on " ++ name ++ if both = 0 then " which is empty"
        else " after byte " ++ toString both ++ if ! lines then ""
          else if seen.getLast? = some '\n' then ", line " ++ toString line else ", in line " ++ toString (line + 1))
      status 1

/-! ## `diff` -/

/-- What two texts differ in, as `diff` shows it; nothing if they are the same. -/
def compareTexts (a : Arguments) (firstName secondName x y : String) : Option String :=
  let labels := (a.flags.filter (·.1 = 'L')).map (·.2)
  let label (i : Nat) (name : String) : String :=
    (labels[i]?).getD (name ++ "\t2026-01-01 00:00:00.000000000 +0000")
  let rule : Rule := ⟨a.has 'i', a.has 'w', a.has 'b' || a.has 'Z', a.has 'B'⟩
  let (xs, xOpen) := lines x
  let (ys, yOpen) := lines y
  -- a last line without its end is another line
  let tag (ls : List String) (isOpen : Bool) : List String :=
    let keys := ls.map rule.key
    if isOpen then keys.dropLast ++ (keys.getLast?.map (· ++ "\x00")).toList else keys
  let kx := tag xs xOpen
  let ky := tag ys yOpen
  let hs := settled (· == ·) kx ky
  let hs := hs.map fun h => { h with
    removed := (xs.drop h.start).take h.removed.length
    added := (ys.drop h.otherStart).take h.added.length }
  let hs := if rule.blankLines then hs.filter fun h => (h.removed ++ h.added).any (· ≠ "") else hs
  if hs.isEmpty then none
  else if a.has 'q' then some ("Files " ++ firstName ++ " and " ++ secondName ++ " differ\n")
  else if x.toList.contains '\x00' || y.toList.contains '\x00' then
    some ("Binary files " ++ firstName ++ " and " ++ secondName ++ " differ\n")
  else if a.has 'u' || a.has 'U' then
    let context := ((a.get? 'U').bind String.toNat?).getD 3
    some ("--- " ++ label 0 firstName ++ "\n+++ " ++ label 1 secondName ++ "\n" ++
      String.join ((near context hs).map (unified context xs ys.length xOpen yOpen)))
  else if a.has 'c' || a.has 'C' then
    let context := ((a.get? 'C').bind String.toNat?).getD 3
    some ("*** " ++ label 0 firstName ++ "\n--- " ++ label 1 secondName ++ "\n" ++
      String.join ((near context hs).map (contextual context xs ys xOpen yOpen)))
  else if a.has 'e' then some (String.join (hs.reverse.map Hunk.forEditor))
  else if a.has 'n' then some (String.join (hs.map Hunk.counted))
  else some (String.join (hs.map (·.normal xs.length ys.length xOpen yOpen)))

/-- The path of a file in a directory. -/
def inDirectory (directory name : String) : String :=
  if directory.toList.getLast? = some '/' then directory ++ name else directory ++ "/" ++ name

/-- Compares two files or directories. -/
def comparePaths (a : Arguments) (isTop : Bool) : Nat → String → String → String → Exec Unit
  | 0, _, _, _ => return
  | fuel + 1, options, first, second => do
    let kind (name : String) : Exec Bool := do
      if name = "-" then return false else return (← nodeAt? true name).any Node.isDirectory
    let firstIs ← kind first
    let secondIs ← kind second
    if firstIs && secondIs then
      if ! isTop && ! a.has 'r' then print ("Common subdirectories: " ++ first ++ " and " ++ second ++ "\n")
      else
        let fs ← files
        let entries (name : String) : Exec (List String) := do
          match ← locate true name with
          | .ok full => return fs.entries full
          | .error _ => return []
        let xs ← entries first
        let ys ← entries second
        for name in (xs ++ ys.filter (! xs.contains ·)).mergeSort (· ≤ ·) do
          if a.has 'N' then comparePaths a false fuel options (inDirectory first name) (inDirectory second name)
          else if ! ys.contains name then
            print ("Only in " ++ first ++ ": " ++ name ++ "\n")
            failWith 1
          else if ! xs.contains name then
            print ("Only in " ++ second ++ ": " ++ name ++ "\n")
            failWith 1
          else comparePaths a false fuel options (inDirectory first name) (inDirectory second name)
    else
      let last (name : String) : String := (Text.split '/' name).getLast?.getD ""
      let left := if firstIs then inDirectory first (last second) else first
      let right := if secondIs then inDirectory second (last first) else second
      let text (name : String) : Exec (Except OsError String) :=
        if left = "-" && right = "-" then return .ok "" else inputText name
      -- a file that is only on one side counts as an empty one if asked for
      let (x, y) ← (do match ← text left, ← text right with
        | .error .notFound, .ok y => return (if a.has 'N' then .ok "" else .error .notFound, .ok y)
        | .ok x, .error .notFound => return (.ok x, if a.has 'N' then .ok "" else .error .notFound)
        | x, y => return (x, y) : Exec (Except OsError String × Except OsError String))
      match x, y with
      | .ok x, .ok y =>
        match compareTexts a left right x y with
        | none => if a.has 's' then print ("Files " ++ left ++ " and " ++ right ++ " are identical\n")
        | some text =>
          if ! isTop && ! a.has 'q' then print ("diff" ++ options ++ " " ++ left ++ " " ++ right ++ "\n")
          print text
          failWith 1
      | x, y =>
        for (name, r) in [(left, x), (right, y)] do
          match r with
          | .error e => complain (name ++ ": " ++ e.text)
          | .ok _ => pure ()
        failWith 2

def diff (args : List String) : Exec Unit :=
  let names := [("brief", 'q'), ("report-identical-files", 's'), ("unified", 'U'), ("recursive", 'r'),
    ("ignore-case", 'i'), ("ignore-all-space", 'w'), ("ignore-space-change", 'b'), ("ignore-blank-lines", 'B'),
    ("ignore-trailing-space", 'Z'), ("normal", '\x01'), ("new-file", 'N'), ("text", 'a'), ("label", 'L'), ("context", 'C'),
    ("ed", 'e'), ("rcs", 'n'), ("strip-trailing-cr", '\x02')]
  withComparison { letters := "qsuU:riwbBZNaL:\x01cC:en\x02", names } args fun a => do
    match a.operands with
    | [] => misuseOf ("missing operand after " ++ Quotation.always (← get).name)
    | [one] => misuseOf ("missing operand after " ++ Quotation.always one)
    | [first, second] =>
      let options := String.join ((args.filter fun o => o.toList.head? = some '-' && 1 < o.length).map (" " ++ ·))
      comparePaths a true 64 options first second
    | _ :: _ :: o :: _ => misuseOf ("extra operand " ++ Quotation.always o)

end Exec

end Flowline.Shell
