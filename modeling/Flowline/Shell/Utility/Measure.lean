import Flowline.Shell.Utility.Layout

/-!
# Counts and dumps

`wc` counts lines, words and bytes; `od` shows bytes as numbers or names.
-/

namespace Flowline.Shell

/-! ## Counting -/

/-- What has been counted in a text. -/
structure Tally where
  lines : Nat
  words : Nat
  bytes : Nat
  /-- The width of the longest line, and of the line that is open. -/
  longest : Nat
  column : Nat
  inWord : Bool

namespace Tally

def zero : Tally := ⟨0, 0, 0, 0, 0, false⟩

def addChar (t : Tally) (c : Char) : Tally :=
  let isBlank := isSpace c
  let column := match c with
    | '\n' => 0
    | '\r' => 0
    | '\x0c' => 0
    | '\t' => (t.column / 8 + 1) * 8
    | '\x0b' => t.column
    | c => if Quotation.isPrintable c then t.column + 1 else t.column
  { lines := if c = '\n' then t.lines + 1 else t.lines
    words := if ! isBlank && ! t.inWord then t.words + 1 else t.words
    bytes := t.bytes + 1
    longest := max t.longest column
    column
    inWord := ! isBlank }

def addText (t : Tally) (s : String) : Tally := s.foldl addChar t

/-- The sum of two counts. -/
def plus (a b : Tally) : Tally :=
  ⟨a.lines + b.lines, a.words + b.words, a.bytes + b.bytes, max a.longest b.longest, 0, false⟩

/-- The numbers that are asked for. -/
def columns (t : Tally) (a : Arguments) : List Nat :=
  let all := ! (a.has 'l' || a.has 'w' || a.has 'c' || a.has 'm' || a.has 'L')
  (if all || a.has 'l' then [t.lines] else []) ++ (if all || a.has 'w' then [t.words] else []) ++
    (if a.has 'm' then [t.bytes] else []) ++ (if all || a.has 'c' then [t.bytes] else []) ++
    (if a.has 'L' then [t.longest] else [])

end Tally

namespace Exec

/-- The size of what a name stands for if it is a plain file; nothing if there is no such file. -/
def plainSize? (name : String) : Exec (Option (Option Nat)) := do
  let p ← get
  let w ← world
  let node? := if name = "-" then
      match p.handle? 0 with
      | some (.file n) => (w.opened[n]?).bind fun o => w.files.nodes[o.node]?
      | _ => none
    else w.files.lookup? p.directory name
  match node? with
  | some n => return some (n.text?.map String.length)
  | none => return if name = "-" && (p.handle? 0).isSome then some none else none

def wc (args : List String) : Exec Unit :=
  let names := [("bytes", 'c'), ("chars", 'm'), ("lines", 'l'), ("words", 'w'), ("max-line-length", 'L'),
    ("total", 't')]
  withArguments { letters := "clLmwt:", names } 1 args fun a => do
    let inputs := inputNames a.operands
    let sizes ← inputs.mapM plainSize?
    let known := sizes.filterMap id
    let total := (known.filterMap id).foldl (· + ·) 0
    let isSingle := inputs.length = 1 && (Tally.zero.columns a).length = 1
    let digits := (toString total).length
    let width := if isSingle || sizes.head? = some none || a.get? 't' = some "only" then 1
      else if known.any Option.isNone then max digits 7 else digits
    let row (t : Tally) (label : String) : String :=
      String.intercalate " " ((t.columns a).map fun n => padLeft width (toString n)) ++ label ++ "\n"
    let label (name : String) : String := if a.operands.isEmpty then "" else " " ++ name
    let isOnly := a.get? 't' = some "only"
    let failed (_ : Bool) (name : String) (e : OsError) : Exec Unit := do
      flush
      blame 1 true name e
      if e = .isDirectory && ! isOnly then print (row .zero (label name))
    let sum ← foldInputs failed (fun sum name h => do
      match ← foldBlocks h (fun t block => do return (Tally.addText t block, true)) Tally.zero with
      | .error e => return .error e
      | .ok t =>
        if ! isOnly then print (row t (label name))
        return .ok (sum.plus t)) inputs Tally.zero
    match a.get? 't' with
    | some "never" => return
    | some "always" => print (row sum " total")
    | some "only" => print (row sum "")
    | _ => if 1 < inputs.length then print (row sum " total")

end Exec

/-! ## Dumps -/

namespace Dump

/-- How some bytes are shown. -/
inductive Kind
  | character
  | named
  | hexadecimal
  | octal
  | unsigned
  | signed
  deriving DecidableEq

structure Form where
  kind : Kind
  size : Nat
  /-- The characters are shown at the end of the line. -/
  trailing : Bool

/-- The width of a field without the blank before it. -/
def Form.width (f : Form) : Nat :=
  let bySize (a b c d : Nat) : Nat := if f.size = 1 then a else if f.size = 2 then b else if f.size = 4 then c else d
  match f.kind with
  | .character => 3
  | .named => 3
  | .hexadecimal => 2 * f.size
  | .octal => bySize 3 6 11 22
  | .unsigned => bySize 3 5 10 20
  | .signed => bySize 4 6 11 20

def charNames : List String := ["nul", "soh", "stx", "etx", "eot", "enq", "ack", "bel", "bs", "ht", "nl", "vt",
  "ff", "cr", "so", "si", "dle", "dc1", "dc2", "dc3", "dc4", "nak", "syn", "etb", "can", "em", "sub", "esc",
  "fs", "gs", "rs", "us", "sp"]

/-- Digits to a base, with zeros in front up to a width. -/
def padded (base width n : Nat) : String :=
  let digits := Nat.toDigits base n
  String.ofList (List.replicate (width - digits.length) '0' ++ digits)

/-- The field of some bytes. -/
def Form.field (f : Form) (bytes : List Nat) : String :=
  let value := bytes.reverse.foldl (fun n b => 256 * n + b) 0
  match f.kind with
  | .character =>
    match value with
    | 0 => "\\0"
    | 7 => "\\a"
    | 8 => "\\b"
    | 9 => "\\t"
    | 10 => "\\n"
    | 11 => "\\v"
    | 12 => "\\f"
    | 13 => "\\r"
    | n => if 32 ≤ n && n < 127 then String.ofList [Char.ofNat n] else padded 8 3 n
  | .named =>
    let n := value % 128
    if n = 127 then "del" else charNames[n]?.getD (String.ofList [Char.ofNat n])
  | .hexadecimal => padded 16 f.width value
  | .octal => padded 8 f.width value
  | .unsigned => toString value
  | .signed => toString (Int.bmod value (Nat.pow 256 f.size))

/-- Groups of a size; the last one is filled up with zeros. -/
def groups (size : Nat) : Nat → List Nat → List (List Nat)
  | 0, _ => []
  | _, [] => []
  | fuel + 1, bytes =>
    let first := bytes.take size
    (first ++ List.replicate (size - first.length) 0) :: groups size fuel (bytes.drop size)

/-- A line of a dump in one form; a byte takes `unit` places if several forms are shown. -/
def Form.line (f : Form) (unit width : Nat) (bytes : List Nat) : String :=
  let fieldWidth := max (f.width + 1) (unit * f.size)
  let text := String.join ((groups f.size bytes.length bytes).map fun g => padLeft fieldWidth (f.field g))
  if f.trailing then
    let shown := String.ofList (bytes.map fun b => if 32 ≤ b && b < 127 then Char.ofNat b else '.')
    padRight (fieldWidth * (width / f.size)) text ++ "  >" ++ shown ++ "<"
  else text

/-- The forms that a type such as `x1z` names, or the character that makes no sense in it. -/
def forms : Nat → List Char → Except Char (List Form)
  | 0, _ => .ok []
  | _, [] => .ok []
  | fuel + 1, c :: cs => do
    let (size, rest) : Option Nat × List Char := match cs with
      | 'C' :: rest => (some 1, rest)
      | 'S' :: rest => (some 2, rest)
      | 'I' :: rest => (some 4, rest)
      | 'L' :: rest => (some 8, rest)
      | cs =>
        let digits := cs.takeWhile Char.isDigit
        (if digits.isEmpty then none else some (Text.digitsValue digits), cs.drop digits.length)
    let make (kind : Kind) (size : Nat) (rest : List Char) : Except Char (List Form) := do
      let (trailing, rest) := match rest with
        | 'z' :: rest => (true, rest)
        | rest => (false, rest)
      let more ← forms fuel rest
      return ⟨kind, size, trailing⟩ :: more
    match c with
    | 'c' => make .character 1 cs
    | 'a' => make .named 1 cs
    | 'x' => make .hexadecimal (size.getD 4) rest
    | 'o' => make .octal (size.getD 4) rest
    | 'u' => make .unsigned (size.getD 4) rest
    | 'd' => make .signed (size.getD 4) rest
    | c => throw c

/-- The type that a letter stands for. -/
def typeOf (flag : Char × String) : Option String :=
  match flag.1 with
  | 't' => some flag.2
  | 'a' => some "a"
  | 'b' => some "o1"
  | 'c' => some "c"
  | 'd' => some "u2"
  | 'h' => some "x2"
  | 'x' => some "x2"
  | 'o' => some "o2"
  | 's' => some "d2"
  | 'i' => some "d4"
  | 'I' => some "d8"
  | 'l' => some "d8"
  | _ => none

/-- The lines of a dump; of equal lines only the first is shown unless `all`. -/
def lines (forms : List Form) (address : Nat → String) (width : Nat) (all : Bool) :
    Nat → Nat → Option (List Nat) → Bool → List Nat → List String
  | 0, _, _, _, _ => []
  | fuel + 1, place, before, starred, bytes =>
    if bytes.isEmpty then []
    else
      let row := bytes.take width
      let rest := bytes.drop width
      if ! all && before = some row && row.length = width && ! rest.isEmpty then
        (if starred then [] else ["*"]) ++ lines forms address width all fuel (place + width) before true rest
      else if ! all && before = some row && row.length = width then
        (if starred then [] else ["*"])
      else
        let unit := if forms.length ≤ 1 then 0
          else (forms.map fun f => (f.width + f.size) / f.size).foldl max 0
        let start := address place
        let shown := forms.map fun f => f.line unit width row
        ((shown.take 1).map (start ++ ·) ++ (shown.drop 1).map (spaces start.length ++ ·)) ++
          lines forms address width all fuel (place + width) (some row) false rest

end Dump

namespace Exec

def od (args : List String) : Exec Unit :=
  let names := [("address-radix", 'A'), ("skip-bytes", 'j'), ("read-bytes", 'N'), ("format", 't'),
    ("output-duplicates", 'v'), ("width", 'w')]
  withArguments { letters := "A:aBbcDdeFfHhIij:LlN:OoS:st:vw::Xx", names } 1 args fun a => do
    let types := a.flags.filterMap Dump.typeOf
    let type := if types.isEmpty then "o2" else String.join types
    match Dump.forms (type.length + 1) type.toList with
    | .error c =>
      complain ("invalid character '" ++ String.ofList [c] ++ "' in type string " ++ Quotation.always type)
      status 1
    | .ok forms =>
      let size (letter : Char) : Option Nat := (a.get? letter).bind fun s =>
        match Count.parse s with
        | .ok n => some n
        | .error _ => none
      let skipped := (size 'j').getD 0
      let found ← match size 'N' with
        | some n => gatherFirst (blame 1) (skipped + n) a.operands
        | none => gather (blame 1) a.operands
      let bytes := found.flatMap fun (_, text) => text.toList.map Char.toNat
      let bytes := bytes.drop skipped
      let bytes := match size 'N' with
        | some n => bytes.take n
        | none => bytes
      let radix := (a.get? 'A').getD "o"
      let address (n : Nat) : String := match radix with
        | "n" => ""
        | "x" => Dump.padded 16 6 n
        | "d" => Dump.padded 10 7 n
        | _ => Dump.padded 8 7 n
      let width := match a.get? 'w' with
        | some "" => 32
        | some s => max ((Count.positive? s).getD 16) 1
        | none => 16
      if (← get).status = 0 || ! found.isEmpty then
        let ls := Dump.lines forms address width (a.has 'v') (bytes.length + 1) skipped none false bytes
        print (joinLines (ls ++ if radix = "n" then [] else [address (skipped + bytes.length)]))

end Exec

end Flowline.Shell
