import Flowline.Shell.Utility.Count
import Flowline.Shell.Utility.Input

/-!
# Whole inputs and their ends

`cat`, `tee`, `head` and `tail`: inputs that are passed on as they are, in full or in part.
-/

namespace Flowline.Shell.Exec

/-! ## Whole inputs -/

/-- How `cat` shows its input. -/
structure View where
  /-- Lines are numbered, or those that are not empty. -/
  number : Option Char
  squeeze : Bool
  ends : Bool
  tabs : Bool
  others : Bool

namespace View

def ofArguments (a : Arguments) : View where
  number := if a.has 'b' then some 'b' else if a.has 'n' then some 'n' else none
  squeeze := a.has 's'
  ends := a.has 'E' || a.has 'A' || a.has 'e'
  tabs := a.has 'T' || a.has 'A' || a.has 't'
  others := a.has 'v' || a.has 'A' || a.has 'e' || a.has 't'

def isPlain (v : View) : Bool := v.number.isNone && ! v.squeeze && ! v.ends && ! v.tabs && ! v.others

/-- A character that cannot be seen, in characters that can. -/
def visible (c : Char) : String :=
  let low (n : Nat) : String :=
    if n < 32 then "^" ++ String.ofList [Char.ofNat (n + 64)]
    else if n = 127 then "^?" else String.ofList [Char.ofNat n]
  if c.toNat < 128 then low c.toNat else "M-" ++ low (c.toNat - 128)

def showChar (v : View) (c : Char) : String :=
  if c = '\t' then if v.tabs then "^I" else "\t"
  else if v.others then visible c else String.ofList [c]

/-- What has been shown so far: the number of the last line, whether a line begins, and how many empty lines
have just been seen. -/
structure State where
  line : Nat
  atStart : Bool
  blanks : Nat

/-- Shows a piece of a line, and its end if it `ends` here. -/
def showPiece (v : View) (s : State) (piece : String) (isEnd : Bool) : State × String :=
  let isBlank := s.atStart && piece = "" && isEnd
  let blanks := if isBlank then s.blanks + 1 else if piece = "" then s.blanks else 0
  if isBlank && v.squeeze && 1 < blanks then ({ s with blanks }, "")
  else
    let isNumbered := s.atStart && (match v.number with
      | some 'b' => ! isBlank
      | some _ => true
      | none => false)
    let line := if isNumbered then s.line + 1 else s.line
    let digits := toString line
    let start := if isNumbered then String.ofList (List.replicate (6 - digits.length) ' ') ++ digits ++ "\t" else ""
    (⟨line, isEnd, if isEnd && ! isBlank then 0 else blanks⟩,
      start ++ String.join (piece.toList.map v.showChar) ++
        if isEnd then if v.ends then "$\n" else "\n" else "")

/-- Shows the pieces of a block, all but the last of which end with a line feed. -/
def showPieces (v : View) : State → List String → List String → State × String
  | s, shown, [] => (s, String.join shown.reverse)
  | s, shown, [""] => (s, String.join shown.reverse)
  | s, shown, [last] =>
    let (s, text) := v.showPiece s last false
    (s, String.join (text :: shown).reverse)
  | s, shown, piece :: rest =>
    let (s, text) := v.showPiece s piece true
    v.showPieces s (text :: shown) rest

end View

/-- Writes a text at once; a program that cannot write ends. -/
def relay (text : String) : Exec Unit := do
  match ← writeFd 1 text with
  | .ok () => return
  | .error e =>
    complain ("write error: " ++ e.text)
    status 1
    halt .ended

/-- Whether a file that is read is the one that is written to, behind what is read. -/
def readsOwnOutput (h : Handle) : Exec Bool := do
  let p ← get
  let w ← world
  match h, p.handle? 1 with
  | .file m, some (.file n) =>
    match w.opened[m]?, w.opened[n]? with
    | some i, some o =>
      let size := (((w.files.nodes[o.node]?).bind Node.text?).map String.length).getD 0
      return i.node = o.node && o.writable && i.place < if o.append then size else o.place
    | _, _ => return false
  | _, _ => return false

def cat (args : List String) : Exec Unit :=
  let names := [("number-nonblank", 'b'), ("number", 'n'), ("squeeze-blank", 's'), ("show-nonprinting", 'v'),
    ("show-ends", 'E'), ("show-tabs", 'T'), ("show-all", 'A')]
  withArguments { letters := "benstuvAET", names } 1 args fun a => do
    let v := View.ofArguments a
    if ((← get).handle? 1).isNone then
      complain ("standard output: " ++ OsError.badDescriptor.text)
      status 1
    else
      let _ ← foldInputs (blame 1) (fun (s : View.State) name h => do
        if ← readsOwnOutput h then
          complain (Quotation.whereNeeded name ++ ": input file is output file")
          failWith 1
          return .ok s
        else
          foldBlocks h (fun s block => do
            if v.isPlain then
              relay block
              return (s, true)
            else
              let (s, text) := v.showPieces s [] (Text.split '\n' block)
              relay text
              return (s, true)) s) (inputNames a.operands) ⟨0, true, 0⟩

def tee (args : List String) : Exec Unit :=
  withArguments { letters := "aip", names := [("append", 'a'), ("ignore-interrupts", 'i')] } 1 args fun a => do
    if a.has 'i' then modify fun p => { p with ignored := Signal.int :: p.ignored }
    let mut targets := []
    for name in a.operands do
      match ← openFile name (if a.has 'a' then .addTo else .write) with
      | .ok h =>
        targets := targets ++ [h]
        modify fun p => { p with held := h :: p.held }
      | .error e => blame 1 true name e
    let outputs := ((← get).handle? 1).toList ++ targets
    match (← get).handle? 0 with
    | none =>
      complain ("read error: " ++ OsError.badDescriptor.text)
      failWith 1
    | some h =>
      let _ ← foldBlocks h (fun (_ : Unit) block => do
        for o in outputs do
          match ← writeTo o block with
          | .ok () => pure ()
          | .error e =>
            complain ("'standard output': " ++ e.text)
            failWith 1
        return ((), true)) ()

/-! ## Ends of inputs -/

/-- The name of an input in a heading. -/
def headingName (name : String) : String := if name = "-" then "standard input" else name

/-- Writes the heading of an input, which a line feed separates from another before it. -/
def heading (isFirst : Bool) (name : String) : Exec Unit :=
  print ((if isFirst then "" else "\n") ++ "==> " ++ headingName name ++ " <==\n")

/-- The complaint of `head` and `tail` about an input. -/
def blamePart (opening : Bool) (name : String) (e : OsError) : Exec Unit := do
  if opening then complain ("cannot open " ++ Quotation.always name ++ " for reading: " ++ e.text)
  else complain ("error reading " ++ Quotation.always (headingName name) ++ ": " ++ e.text)
  failWith 1

/-- What part of an input is meant. -/
structure Portion where
  bytes : Bool
  /-- Counted from the other end. -/
  opposite : Bool
  size : Nat
  /-- What ends a line. -/
  stop : Char

/-- Puts what has been read too much back before the place of a file. -/
def unread (h : Handle) (text : String) : Exec Unit := do
  match h with
  | .file n =>
    let w ← world
    match w.opened[n]? with
    | some o => changeWorld (·.moveTo n (o.place - text.length) (text.toList ++ w.ahead o))
    | none => return
  | _ => return

/-- How much `head` reads at once. -/
def headBlock : Nat := 8192

/-- Some lines from the front of a text, and the rest; how many lines are missing. -/
def takeLines (stop : Char) : Nat → List Char → List Char → List Char × List Char × Nat
  | 0, taken, cs => (taken.reverse, cs, 0)
  | n + 1, taken, [] => (taken.reverse, [], n + 1)
  | n + 1, taken, c :: cs => takeLines stop (if c = stop then n else n + 1) (c :: taken) cs
termination_by _ _ cs => cs.length

/-- Passes on what stands at the front of an input. -/
def passFront (h : Handle) (bytes : Bool) (stop : Char) : Nat → Nat → Exec (Except OsError Unit)
  | 0, _ => return .ok ()
  | fuel + 1, size => do
    if size = 0 then return .ok ()
    match ← readFrom h (if bytes then min size headBlock else headBlock) false with
    | .error e => return .error e
    | .ok "" => return .ok ()
    | .ok text =>
      if bytes then
        print text
        passFront h bytes stop fuel (size - text.length)
      else
        let (taken, rest, missing) := takeLines stop size [] text.toList
        print (String.ofList taken)
        unread h (String.ofList rest)
        if missing = 0 then return .ok () else passFront h bytes stop fuel missing

/-- The lines of a text, each with what ends it if it has an end. -/
def linesWithEnds (stop : Char) (s : String) : List String :=
  let ls := Text.split stop s
  ls.dropLast.map (·.push stop) ++ ls.getLast?.toList.filter (· ≠ "")

/-- A text without some of its end. -/
def withoutEnd (p : Portion) (text : String) : String :=
  if p.bytes then String.ofList (text.toList.take (text.length - p.size))
  else
    let ls := linesWithEnds p.stop text
    String.join (ls.take (ls.length - p.size))

/-- The end of a text. -/
def endOf (p : Portion) (text : String) : String :=
  match p.bytes, p.opposite with
  | true, true => String.ofList (text.toList.drop (p.size - 1))
  | true, false => String.ofList (text.toList.drop (text.length - p.size))
  | false, true => String.join ((linesWithEnds p.stop text).drop (p.size - 1))
  | false, false =>
    let ls := linesWithEnds p.stop text
    String.join (ls.drop (ls.length - p.size))

/-- The portion that an option asks for; `sign` counts from the other end. -/
def portionOf (letter : Char) (sign stop : Char) (text : String) : Exec (Option Portion) := do
  let cs := text.toList
  let opposite := cs.head? = some sign
  let digits := if cs.head? = some '-' || cs.head? = some '+' then cs.drop 1 else cs
  match Count.parse (String.ofList digits) with
  | .ok size => return some ⟨letter = 'c', opposite, size, stop⟩
  | .error fault =>
    complain ("invalid number of " ++ (if letter = 'c' then "bytes" else "lines") ++ ": " ++
      Quotation.always text ++ fault.text)
    status 1
    return none

/-- The last of the options `n` and `c`. -/
def lastPortion? (a : Arguments) : Option (Char × String) :=
  a.flags.reverse.find? fun f => f.1 = 'n' || f.1 = 'c'

/-- The first argument of `head` or `tail` if it is a number with letters: as options. -/
def oldStyle? (arg : String) : Option (List String) :=
  match arg.toList with
  | '-' :: c :: cs =>
    let digits := (c :: cs).takeWhile Char.isDigit
    let letters := (c :: cs).drop digits.length
    if digits.isEmpty then none
    else
      let unit := letters.filter fun c => "bkm".toList.contains c
      let kind := if letters.contains 'c' || ! unit.isEmpty then "-c" else "-n"
      some ((letters.filter fun c => "qvzf".toList.contains c).map (fun c => String.ofList ['-', c]) ++
        [kind, String.ofList (digits ++ unit.drop (unit.length - 1))])
  | _ => none

def partNames : List (String × Char) :=
  [("bytes", 'c'), ("lines", 'n'), ("quiet", 'q'), ("silent", 'q'), ("verbose", 'v'), ("follow", 'f'), ("zero-terminated", 'z'),
  ("sleep-interval", 's'), ("pid", '\x01')]

def head (args : List String) : Exec Unit := do
  let old? := (args.head?).bind oldStyle?
  let strange := match old?, args with
    | some _, a :: _ => a.toList.find? fun c => ! c.isDigit && ! "-bckmlqvz".toList.contains c
    | _, _ => none
  match strange with
  | some c => misuse ("invalid trailing option -- " ++ String.ofList [c]) 1
  | none =>
    let args := match old? with
      | some options => options ++ args.drop 1
      | none => args
    withArguments { letters := "c:n:qvz", names := partNames } 1 args fun a => do
      let (letter, text) := (lastPortion? a).getD ('n', "10")
      match ← portionOf letter '-' (if a.has 'z' then '\x00' else '\n') text with
      | none => return
      | some p =>
        let headed := match a.last? ['q', 'v'] with
          | some 'q' => false
          | some _ => true
          | none => 1 < a.operands.length
        let _ ← foldInputs blamePart (fun isFirst name h => do
          if headed then heading isFirst name
          let r ← if p.opposite then do
              match ← readToEnd h manyBlocks [] with
              | .ok text =>
                print (withoutEnd p text)
                pure (Except.ok ())
              | .error e => pure (Except.error e)
            else passFront h p.bytes p.stop manyBlocks p.size
          return r.map fun () => false) (inputNames a.operands) true

/-- Passes on what is added to a file, without an end. -/
def follow (h : Handle) : Nat → Exec Unit
  | 0 => hang
  | fuel + 1 => do
    match ← readFrom h blockSize false with
    | .ok "" => waitUntil ((← world).now + 10) false
    | .ok text =>
      print text
      flush
    | .error _ => hang
    follow h fuel

def tail (args : List String) : Exec Unit := do
  let isOld := args.length ≤ 2 && (args.drop 1).all fun x => x = "-" || x.toList.head? ≠ some '-'
  let args' := match args with
    | x :: rest =>
      match x.toList with
      | '+' :: c :: cs =>
        if isOld && (c :: cs).all Char.isDigit then "-n" :: x :: rest else args
      | _ => if isOld then ((oldStyle? x).map (· ++ rest)).getD args else args
    | [] => []
  match args'.head?.bind fun x => (oldStyle? x).map fun _ => x with
  | some x => 
    complain ("option used in invalid context -- " ++ String.ofList ((x.toList.drop 1).take 1))
    status 1
  | none =>
    withArguments { letters := "c:n:qvzfFs:\x01:", names := partNames } 1 args' fun a => do
      let (letter, text) := (lastPortion? a).getD ('n', "10")
      match ← portionOf letter '+' (if a.has 'z' then '\x00' else '\n') text with
      | none => return
      | some p =>
        let headed := match a.last? ['q', 'v'] with
          | some 'q' => false
          | some _ => true
          | none => 1 < a.operands.length
        let follows := a.has 'f' || a.has 'F'
        let last ← foldInputs blamePart (fun (isFirst, _) name h => do
          if headed then heading isFirst name
          match ← readToEnd h manyBlocks [] with
          | .ok text =>
            print (endOf p text)
            return .ok (false, some h)
          | .error e => return .error e) (inputNames a.operands) (true, none)
        if follows then
          match last.2 with
          | some h =>
            modify fun p => { p with held := h :: p.held }
            flush
            match h with
            | .file _ => follow h manyBlocks
            | _ => return
          | none => complain "no files remaining"

end Flowline.Shell.Exec
