import Flowline.Shell.Regex
import Flowline.Shell.Utility.Part

/-!
# Layout of lines

`nl`, `fold`, `paste`, `expand`, `unexpand`, `tac` and `rev`: lines that are numbered, broken, joined or
turned round.
-/

namespace Flowline.Shell

def spaces (n : Nat) : String := String.ofList (List.replicate n ' ')

def padLeft (width : Nat) (s : String) : String := spaces (width - s.length) ++ s

def padRight (width : Nat) (s : String) : String := s ++ spaces (width - s.length)

namespace Exec

/-- Handles the lines of all inputs one after another, with a state. -/
def eachLine {σ : Type} (names : List String) (f : σ → String → Bool → Exec σ) (s : σ) : Exec σ :=
  foldInputs (blame 1) (fun s _ h => foldLines '\n' h (fun s line ended => do return (← f s line ended, true)) s)
    (inputNames names) s

/-! ## Numbers -/

/-- How `nl` numbers lines. -/
structure Numbering where
  /-- Which lines have numbers in each part of a page, which has the letter of its option: `a`, `t`, `n`, or
  `p` and an expression that they match. -/
  styles : List (Char × String)
  start : Int
  step : Int
  width : Nat
  separator : String
  format : String
  /-- What the marks between the parts are made of. -/
  mark : String
  /-- How many empty lines count as one. -/
  joined : Nat
  /-- Whether each page starts anew. -/
  renews : Bool

/-- What is carried from line to line: the next number, the part of the page, and the empty lines in a row. -/
structure NumberingState where
  value : Int
  part : Char
  empties : Nat

/-- Whether a line has a number, and the empty lines in a row from then on. -/
def Numbering.selects (n : Numbering) (s : NumberingState) (line : String) : Bool × Nat :=
  let style := (n.styles.lookup s.part).getD "n"
  match style.toList with
  | 'a' :: _ =>
    if n.joined < 2 then (true, 0)
    else if line ≠ "" || s.empties + 1 = n.joined then (true, 0)
    else (false, s.empties + 1)
  | 't' :: _ => (line ≠ "", 0)
  | 'p' :: pattern => ((Regex.parse false (String.ofList pattern)).any (·.isIn false line), 0)
  | _ => (false, 0)

def Numbering.show (n : Numbering) (value : Int) : String :=
  let digits := toString value.natAbs
  let sign := if value < 0 then "-" else ""
  match n.format with
  | "ln" => padRight n.width (sign ++ digits)
  | "rz" => sign ++ String.ofList (List.replicate (n.width - sign.length - digits.length) '0') ++ digits
  | _ => padLeft n.width (sign ++ digits)

/-- The part of a page that a line opens: three marks stand for a header, two for a body, one for a footer. -/
def Numbering.opens? (n : Numbering) (line : String) : Option Char :=
  if n.mark = "" then none
  else if line = n.mark ++ n.mark ++ n.mark then some 'h'
  else if line = n.mark ++ n.mark then some 'b'
  else if line = n.mark then some 'f'
  else none

/-- Shows a line with its number. -/
def numberLine (n : Numbering) (s : NumberingState) (line : String) : Exec NumberingState := do
  match n.opens? line with
  | some part =>
    print "\n"
    return { s with value := if n.renews then n.start else s.value, part }
  | none =>
    let (selected, empties) := n.selects s line
    if selected then
      print (n.show s.value ++ n.separator ++ line ++ "\n")
      return { s with value := s.value + n.step, empties }
    else
      print (spaces (n.width + n.separator.length) ++ line ++ "\n")
      return { s with empties }

def nl (args : List String) : Exec Unit :=
  let names := [("body-numbering", 'b'), ("line-increment", 'i'), ("number-format", 'n'), ("no-renumber", 'p'),
    ("number-separator", 's'), ("starting-line-number", 'v'), ("number-width", 'w'), ("join-blank-lines", 'l'),
    ("header-numbering", 'h'), ("footer-numbering", 'f'), ("section-delimiter", 'd')]
  withArguments { letters := "b:d:f:h:i:l:n:ps:v:w:", names } 1 args fun a => do
    let whole (letter : Char) (default : Int) : Option Int :=
      match a.get? letter with
      | none => some default
      | some s => integer? s
    let styles := [('h', (a.get? 'h').getD "n"), ('b', (a.get? 'b').getD "t"), ('f', (a.get? 'f').getD "n")]
    let isStyle (s : String) : Bool := s.toList.head? = some 'p' || ["a", "t", "n"].contains s
    let format := (a.get? 'n').getD "rn"
    let given (letter : Char) : String := Quotation.always ((a.get? letter).getD "")
    let checks : List (Option String) := [
      if (whole 'v' 1).isNone then some ("invalid starting line number: " ++ given 'v') else none,
      if (whole 'i' 1).isNone then some ("invalid line number increment: " ++ given 'i') else none,
      if (whole 'l' 1).isNone then some ("invalid line number of blank lines: " ++ given 'l') else none,
      match whole 'w' 6 with
      | none => some ("invalid line number field width: " ++ given 'w')
      | some w => if w < 1 then some ("invalid line number field width: " ++ given 'w' ++ ": Numerical result out of range")
        else none]
    match checks.findSome? (fun c => c), styles.find? fun (_, s) => ! isStyle s with
    | some message, _ =>
      complain message
      status 1
    | none, some (part, s) =>
      let name := match part with
        | 'h' => "header"
        | 'b' => "body"
        | _ => "footer"
      misuse ("invalid " ++ name ++ " numbering style: " ++ Quotation.always s) 1
    | none, none =>
      if ! ["ln", "rn", "rz"].contains format then
        misuse ("invalid line numbering format: " ++ Quotation.always format) 1
      else
        let mark := (a.get? 'd').getD "\\:"
        let start := (whole 'v' 1).getD 1
        let n : Numbering := {
          styles, start
          step := (whole 'i' 1).getD 1
          width := ((whole 'w' 6).getD 6).toNat
          separator := (a.get? 's').getD "\t"
          format
          mark := if mark.length = 1 then mark ++ ":" else mark
          joined := ((whole 'l' 1).getD 1).toNat
          renews := ! a.has 'p' }
        let _ ← eachLine a.operands (fun s line _ => numberLine n s line) ⟨start, 'b', 0⟩

/-! ## Width -/

/-- The column after a character. -/
def columnAfter (bytes : Bool) (column : Nat) (c : Char) : Nat :=
  if bytes then column + 1
  else match c with
    | '\x08' => column - 1
    | '\r' => 0
    | '\t' => (column / 8 + 1) * 8
    | _ => column + 1

/-- The column after some characters. -/
def columnOf (bytes : Bool) (cs : List Char) : Nat := cs.foldl (columnAfter bytes) 0

/-- Breaks a line; what is on the current line has the last character first. -/
def breakLine (bytes atBlanks : Bool) (width : Nat) : Nat → List Char → Nat → List Char → List Char → String
  | 0, current, _, done, _ => String.ofList (current ++ done).reverse
  | _, current, _, done, [] => String.ofList (current ++ done).reverse
  | fuel + 1, current, column, done, c :: cs =>
    let next := columnAfter bytes column c
    if next ≤ width || current.isEmpty then breakLine bytes atBlanks width fuel (c :: current) next done cs
    else
      let tail := current.takeWhile fun c => c ≠ ' ' && c ≠ '\t'
      if atBlanks && tail.length < current.length then
        let kept := current.drop tail.length
        breakLine bytes atBlanks width fuel tail (columnOf bytes tail.reverse) ('\n' :: (kept ++ done)) (c :: cs)
      else breakLine bytes atBlanks width fuel [] 0 ('\n' :: (current ++ done)) (c :: cs)

def fold (args : List String) : Exec Unit :=
  let args := args.map fun x => match x.toList with
    | '-' :: c :: cs => if (c :: cs).all Char.isDigit then "-w" ++ String.ofList (c :: cs) else x
    | _ => x
  withArguments { letters := "bsw:", names := [("bytes", 'b'), ("spaces", 's'), ("width", 'w')] } 1 args fun a => do
    let text := (a.get? 'w').getD "80"
    match Count.positive? text with
    | none =>
      complain ("invalid number of columns: " ++ Quotation.always text ++
        if text.toList.all (· = '0') && text ≠ "" then ": Numerical result out of range" else "")
      status 1
    | some width =>
      let _ ← eachLine a.operands (fun () line ended => do
        print (breakLine (a.has 'b') (a.has 's') width (3 * line.length + 3) [] 0 [] line.toList)
        if ended then print "\n") ()

/-! ## Tabs -/

/-- Where tabs lead to: the column after one, with a list of stops or one distance. -/
def tabStop (stops : List Nat) (column : Nat) : Nat :=
  match stops with
  | [] => (column / 8 + 1) * 8
  | [n] => (column / n + 1) * n
  | stops => (stops.find? (column < ·)).getD (column + 1)

/-- The stops that an option names. -/
def tabStops? (text : Option String) : Option (List Nat) :=
  match text with
  | none => some []
  | some s => ((Text.pieces (fun c => c = ',' || c = ' ') s.toList).map String.ofList).mapM Count.positive?

/-- A line with blanks in place of tabs, only at its start if `initial`. -/
def expandTabs (stops : List Nat) (initial : Bool) : Nat → Bool → List Char → List Char
  | _, _, [] => []
  | column, blank, c :: cs =>
    if c = '\t' && (blank || ! initial) then
      let next := tabStop stops column
      List.replicate (next - column) ' ' ++ expandTabs stops initial next blank cs
    else c :: expandTabs stops initial (if c = '\x08' then column - 1 else column + 1) (blank && c = ' ') cs

/-- A line with tabs in place of blanks that lead to a stop, everywhere if `all`; `pending` blanks have
not been written. -/
def insertTabs (stops : List Nat) (all : Bool) : Nat → Nat → Bool → List Char → List Char
  | _, pending, _, [] => List.replicate pending ' '
  | column, pending, active, c :: cs =>
    if ! active then c :: cs
    else if c = ' ' then
      let next := column + 1
      if tabStop stops column = next && 0 < pending then '\t' :: insertTabs stops all next 0 active cs
      else insertTabs stops all next (pending + 1) active cs
    else if c = '\t' then '\t' :: insertTabs stops all (tabStop stops column) 0 active cs
    else List.replicate pending ' ' ++ c :: insertTabs stops all (column + 1) 0 all cs

def retab (f : List Nat → Arguments → String → List Char) (args : List String) : Exec Unit :=
  withArguments { letters := "iat:", names := [("initial", 'i'), ("all", 'a'), ("tabs", 't')] } 1 args fun a => do
    match tabStops? (a.get? 't') with
    | none =>
      complain ("tab size contains invalid character(s): " ++ Quotation.always ((a.get? 't').getD ""))
      status 1
    | some stops =>
      let _ ← eachLine a.operands (fun () line ended =>
        print (String.ofList (f stops a line) ++ if ended then "\n" else "")) ()

def expand (args : List String) : Exec Unit :=
  retab (fun stops a line => expandTabs stops (a.has 'i') 0 true line.toList) args

def unexpand (args : List String) : Exec Unit :=
  retab (fun stops a line => insertTabs stops (a.has 'a' || a.has 't') 0 0 true line.toList) args

/-! ## Columns -/

/-- The separators that an option of `paste` names; nothing if it ends in a backslash. -/
def separatorsOf? : List Char → Option (List String)
  | [] => some []
  | ['\\'] => none
  | '\\' :: c :: cs =>
    (separatorsOf? cs).map fun rest => (match c with
      | 'n' => "\n"
      | 't' => "\t"
      | '0' => ""
      | 'b' => "\x08"
      | 'f' => "\x0c"
      | 'r' => "\r"
      | 'v' => "\x0b"
      | c => String.ofList [c]) :: rest
  | c :: cs => (separatorsOf? cs).map (String.ofList [c] :: ·)

/-- Puts texts together with separators between them, in turn. -/
def joinWith (separators : List String) : Nat → List String → String
  | _, [] => ""
  | _, [x] => x
  | n, x :: xs => x ++ (separators[n % max separators.length 1]?.getD "") ++ joinWith separators (n + 1) xs

/-- The rows of some columns. -/
def rowsOf : Nat → List (List String) → List (List String)
  | 0, _ => []
  | fuel + 1, columns =>
    if columns.all List.isEmpty then []
    else columns.map (·.headD "") :: rowsOf fuel (columns.map (·.drop 1))

/-- Deals out lines to the inputs that are the standard input, one to each in turn. -/
def dealLines (names : List String) (lines : List String) : List (List String) :=
  let count := (names.filter (· = "-")).length
  let column (k : Nat) : List String :=
    ((lines.zip (List.range lines.length)).filter fun (_, i) => i % max count 1 = k).map Prod.fst
  (List.range count).map column

/-- The columns of some inputs, those of the standard input taken from a list. -/
def placeColumns : List (String × Option (List String)) → List (List String) → List (List String)
  | [], _ => []
  | (_, some lines) :: rest, dealt => lines :: placeColumns rest dealt
  | (_, none) :: rest, d :: dealt => d :: placeColumns rest dealt
  | (_, none) :: rest, [] => [] :: placeColumns rest []

/-- The lines of the inputs of `paste`; the standard input is read once.  Nothing if one cannot be opened. -/
def pasteColumns : List String → Exec (Option (List (String × Option (List String))))
  | [] => return some []
  | "-" :: rest => do return (← pasteColumns rest).map (("-", none) :: ·)
  | name :: rest => do
    match ← readPath name with
    | .error e =>
      blame 1 true name e
      return none
    | .ok text => return (← pasteColumns rest).map ((name, some (splitLines text)) :: ·)

def paste (args : List String) : Exec Unit :=
  withArguments { letters := "sd:z", names := [("serial", 's'), ("delimiters", 'd')] } 1 args fun a => do
    let list := (a.get? 'd').getD "\t"
    match separatorsOf? list.toList with
    | none =>
      complain ("delimiter list ends with an unescaped backslash: " ++ list)
      status 1
    | some separators =>
      let names := inputNames a.operands
      if a.has 's' then
        let _ ← foldInputs (blame 1) (fun () _ h => do
          match ← readToEnd h manyBlocks [] with
          | .error e => return .error e
          | .ok text =>
            print (joinWith separators 0 (splitLines text) ++ "\n")
            return .ok ()) names ()
      else
        match ← pasteColumns names with
        | none => return
        | some columns =>
          let input ← if names.contains "-" then readAll 0 else pure (.ok "")
          let dealt := dealLines names (splitLines (match input with
            | .ok s => s
            | .error _ => ""))
          let columns := placeColumns columns dealt
          let size := (columns.map List.length).foldl max 0
          for row in rowsOf (size + 1) columns do print (joinWith separators 0 row ++ "\n")

/-! ## Order -/

/-- The pieces of a text, each with the separator that ends it. -/
def piecesWith (separator : String) (text : String) : List String :=
  let parts := text.splitOn separator
  let ended := parts.dropLast.map (· ++ separator)
  match parts.getLast? with
  | some "" => ended
  | some last => ended ++ [last]
  | none => ended

def tac (args : List String) : Exec Unit :=
  withArguments { letters := "bs:r", names := [("separator", 's')] } 1 args fun a => do
    let separator := (a.get? 's').getD "\n"
    let failed (opening : Bool) (name : String) (e : OsError) : Exec Unit := do
      if opening then interject ("failed to open " ++ Quotation.always name ++ " for reading: " ++ e.text)
      else complain (Quotation.whereNeeded name ++ ": read error: " ++
        (if e = .isDirectory then OsError.invalidArgument else e).text)
      failWith 1
    let _ ← foldInputs failed (fun () _ h => do
      match ← readToEnd h manyBlocks [] with
      | .error e => return .error e
      | .ok text =>
        print (String.join (piecesWith separator text).reverse)
        return .ok ()) (inputNames a.operands) ()

def rev (args : List String) : Exec Unit := do
  status 0
  let turn (h : Handle) : Exec (Except OsError Unit) :=
    foldLines '\n' h (fun () line ended => do
      print (String.ofList line.toList.reverse ++ if ended then "\n" else "")
      return ((), true)) ()
  match args with
  | [] =>
    match ← openInput "-" with
    | .ok h =>
      let _ ← turn h
    | .error _ => status 1
  | names =>
    for name in names do
      match ← openFile name .read with
      | .ok h =>
        let _ ← holding h (turn h)
      | .error e =>
        interject ("cannot open " ++ name ++ ": " ++ e.text)
        failWith 1

end Exec

end Flowline.Shell
