import Flowline.Shell.Format
import Flowline.Shell.Utility.Layout

/-!
# Sorting

`sort`: the lines of inputs in an order that depends on keys in them.
-/

namespace Flowline.Shell

namespace Sorting

/-- How keys are compared. -/
inductive Kind
  | text
  | numeric
  | general
  | human
  | month
  | version
  deriving DecidableEq

/-- How a key is looked at. -/
structure Manner where
  kind : Kind
  /-- Blanks in front are left out. -/
  blanks : Bool
  fold : Bool
  /-- Only letters, digits and blanks count. -/
  dictionary : Bool
  reversed : Bool

/-- Where a key starts and ends in a line. -/
structure Key where
  field : Nat
  char : Nat
  /-- Blanks are left out before the characters of the end are counted. -/
  endBlanks : Bool
  last : Option (Nat × Nat)
  /-- Nothing if it is that of the whole command. -/
  manner : Option Manner

/-! ## Keys -/

/-- The manner that some letters ask for. -/
def mannerOf (letters : List Char) : Option Manner :=
  if letters.any "bfdirnghMV".toList.contains then
    some {
      kind := if letters.contains 'n' then .numeric
        else if letters.contains 'g' then .general
        else if letters.contains 'h' then .human
        else if letters.contains 'M' then .month
        else if letters.contains 'V' then .version else .text
      blanks := letters.contains 'b'
      fold := letters.contains 'f'
      dictionary := letters.contains 'd'
      reversed := letters.contains 'r' }
  else none

def plain : Manner := ⟨.text, false, false, false, false⟩

/-- A number and the rest of some characters, or what is wrong. -/
def fieldNumber (whichCount : String) (cs : List Char) : Except String (Nat × List Char) :=
  let digits := cs.takeWhile Char.isDigit
  if digits.isEmpty then
    .error (whichCount ++ ": invalid count at start of " ++ Quotation.always (String.ofList cs))
  else .ok (Text.digitsValue digits, cs.drop digits.length)

/-- A field and a character in it, with letters behind them. -/
def position (count : String) (cs : List Char) : Except String (Nat × Nat × List Char × List Char) := do
  let (field, rest) ← fieldNumber count cs
  let (char, rest) ← match rest with
    | '.' :: rest => fieldNumber "invalid number after '.'" rest
    | rest => pure (0, rest)
  let letters := rest.takeWhile "bdfgiMhnRrV".toList.contains
  return (field, char, letters, rest.drop letters.length)

/-- The key that a text such as `2,3n` names. -/
def keyOf (text : String) : Except String Key := do
  let bad (why : String) : String := why ++ ": invalid field specification " ++ Quotation.always text
  let (field, char, letters, rest) ← position "invalid number at field start" text.toList
  if field = 0 then throw (bad "field number is zero")
  let isZero := text.toList.take 2 = ['1', '.'] && char = 0
  if isZero then throw (bad "character offset is zero")
  match rest with
  | [] => return ⟨field - 1, char - 1, false, none, mannerOf letters⟩
  | ',' :: rest =>
    let (last, lastChar, more, rest) ← position "invalid number after ','" rest
    if last = 0 then throw (bad "field number is zero")
    if ! rest.isEmpty then throw (bad "stray character in field spec")
    let manner := (mannerOf (letters ++ more)).map fun m => { m with blanks := letters.contains 'b' }
    return ⟨field - 1, char - 1, more.contains 'b', some (last - 1, lastChar), manner⟩
  | _ => throw (bad "stray character in field spec")

def isBlank (c : Char) : Bool := c = ' ' || c = '\t' || c = '\n'

/-- What comes behind some fields. -/
def dropFields (separator : Option Char) : Nat → List Char → List Char
  | 0, cs => cs
  | n + 1, cs =>
    match separator with
    | some t => dropFields separator n ((cs.dropWhile (· ≠ t)).drop 1)
    | none => dropFields separator n ((cs.dropWhile isBlank).dropWhile fun c => ! isBlank c)

/-- What comes from the end of a key on. -/
def afterEnd (separator : Option Char) (k : Key) (cs : List Char) : List Char :=
  match k.last with
  | none => []
  | some (field, char) =>
    if char = 0 then
      match separator with
      | some t => (dropFields separator field cs).dropWhile (· ≠ t)
      | none => dropFields separator (field + 1) cs
    else
      let start := dropFields separator field cs
      (if k.endBlanks then start.dropWhile isBlank else start).drop char

/-- The characters of a key in a line. -/
def Key.chars (separator : Option Char) (k : Key) (m : Manner) (line : List Char) : List Char :=
  let start := dropFields separator k.field line
  let start := (if m.blanks then start.dropWhile isBlank else start).drop k.char
  start.take (start.length - (afterEnd separator k line).length)

/-! ## Values -/

/-- What is compared of a key. -/
inductive Value
  | text (s : String)
  | number (n : Int)
  | scaled (unit : Int) (n : Int)
  | real (x : Float)
  | parts (ps : List (String × Nat))

/-- The number at the start of some characters, scaled by `10 ^ 12`, and what follows it. -/
def leadingNumber (cs : List Char) : Int × List Char :=
  let cs := cs.dropWhile isBlank
  let negative := cs.head? = some '-'
  let digits := if negative then cs.drop 1 else cs
  let whole := digits.takeWhile Char.isDigit
  let rest := digits.drop whole.length
  let fraction := match rest with
    | '.' :: rest => rest.takeWhile Char.isDigit
    | _ => []
  let kept := fraction.take 12
  let n : Nat := Text.digitsValue whole * Nat.pow 10 12 + Text.digitsValue kept * Nat.pow 10 (12 - kept.length)
  (if negative then - (n : Int) else n, if rest.head? = some '.' then rest.drop (fraction.length + 1) else rest)

/-- The parts of a version: texts, each with the number behind it. -/
def versionParts : Nat → List Char → List (String × Nat)
  | 0, _ => []
  | _, [] => []
  | fuel + 1, cs =>
    let text := cs.takeWhile fun c => ! c.isDigit
    let rest := cs.drop text.length
    let digits := rest.takeWhile Char.isDigit
    (String.ofList text, Text.digitsValue digits) :: versionParts fuel (rest.drop digits.length)

def months : List String := ["JAN", "FEB", "MAR", "APR", "MAY", "JUN", "JUL", "AUG", "SEP", "OCT", "NOV", "DEC"]

def valueOf (m : Manner) (cs : List Char) : Value :=
  match m.kind with
  | .numeric => .number (leadingNumber cs).1
  | .human =>
    let (n, rest) := leadingNumber cs
    let unit : Nat := match rest with
      | c :: _ => (("KMGTPEZY".toList.findIdx? (· = c.toUpper)).map (· + 1)).getD 0
      | [] => 0
    .scaled (if n < 0 then -(unit : Int) else if n = 0 then 0 else unit) n
  | .general =>
    let cs := cs.dropWhile isBlank
    let negative := cs.head? = some '-'
    let (n, exponent, length) := Format.decimal (Text.dropSign cs)
    if length = 0 then .real (0 - (1.0 / 0.0))
    else
      let x := if 0 ≤ exponent then Float.ofScientific n false exponent.toNat
        else Float.ofScientific n true (-exponent).toNat
      .real (if negative then 0 - x else x)
  | .month =>
    let name := String.ofList (((cs.dropWhile isBlank).take 3).map Char.toUpper)
    let place : Nat := ((months.findIdx? (· = name)).map (· + 1)).getD 0
    .number place
  | .version => .parts (versionParts (cs.length + 1) cs)
  | .text =>
    let cs := if m.dictionary then cs.filter fun c => c.isAlphanum || isBlank c else cs
    .text (String.ofList (if m.fold then cs.map Char.toUpper else cs))

/-- The order of the parts of versions. -/
def compareParts : List (String × Nat) → List (String × Nat) → Ordering
  | [], [] => .eq
  | [], _ => .lt
  | _, [] => .gt
  | (s, m) :: xs, (t, n) :: ys =>
    match compare s t with
    | .eq => match compare m n with
      | .eq => compareParts xs ys
      | o => o
    | o => o

def compareValues : Value → Value → Ordering
  | .text s, .text t => compare s t
  | .number m, .number n => compare m n
  | .scaled u m, .scaled v n => match compare u v with
    | .eq => compare m n
    | o => o
  | .real x, .real y => if x < y then .lt else if y < x then .gt else .eq
  | .parts xs, .parts ys => compareParts xs ys
  | _, _ => .eq

/-! ## Orders -/

/-- A line with the values of its keys, each with whether its order is reversed. -/
structure Row where
  line : String
  values : List (Value × Bool)

/-- How lines are put in order. -/
structure Order where
  keys : List Key
  separator : Option Char
  manner : Manner
  /-- Lines with equal keys are compared as a whole. -/
  lastResort : Bool

def Order.row (o : Order) (line : String) : Row :=
  let value (m : Manner) (cs : List Char) : Value × Bool := (valueOf m cs, m.reversed)
  if o.keys.isEmpty then
    let cs := line.toList
    ⟨line, [value o.manner (if o.manner.blanks then cs.dropWhile isBlank else cs)]⟩
  else ⟨line, o.keys.map fun k =>
    let m := k.manner.getD o.manner
    value m (k.chars o.separator m line.toList)⟩

def compareKeys : List (Value × Bool) → List (Value × Bool) → Ordering
  | (x, reversed) :: xs, (y, _) :: ys =>
    match compareValues x y with
    | .eq => compareKeys xs ys
    | o => if reversed then o.swap else o
  | _, _ => .eq

def Order.compare (o : Order) (a b : Row) : Ordering :=
  match compareKeys a.values b.values with
  | .eq =>
    if ! o.lastResort then .eq
    else
      let c := Ord.compare a.line b.line
      if o.manner.reversed then c.swap else c
  | c => c

/-- The rows without those whose keys are those of the row before. -/
def dropEqual : List Row → List Row
  | [] => []
  | [r] => [r]
  | r :: s :: rest => if (compareKeys r.values s.values).isEq then dropEqual (r :: rest) else r :: dropEqual (s :: rest)
termination_by rs => rs.length

/-- The first line that comes too late, with its number. -/
def disorder? (o : Order) (strict : Bool) : Nat → List Row → Option (Nat × String)
  | n, r :: s :: rest =>
    let c := o.compare r s
    if c.isGT || (strict && c.isEq) then some (n + 1, s.line) else disorder? o strict (n + 1) (s :: rest)
  | _, _ => none

/-- The option that a name for a way to sort stands for. -/
def named : String → Option Char
  | "general-numeric" => some 'g'
  | "human-numeric" => some 'h'
  | "month" => some 'M'
  | "numeric" => some 'n'
  | "random" => some 'R'
  | "version" => some 'V'
  | _ => none

/-- Takes the least of the first rows again and again, the earlier one of two that are equal. -/
def mergeRows (inOrder : Row → Row → Bool) : Nat → List (List Row) → List Row
  | 0, _ => []
  | fuel + 1, parts =>
    let parts := parts.filter (! ·.isEmpty)
    let least? : Option (Row × Nat) := parts.zipIdx.foldl (fun best (part, i) =>
      match best, part.head? with
      | some (b, j), some r => if inOrder b r then some (b, j) else some (r, i)
      | none, some r => some (r, i)
      | best, none => best) none
    match least? with
    | none => []
    | some (r, i) => r :: mergeRows inOrder fuel (parts.modify i (List.drop 1))

end Sorting

namespace Exec

def sort (args : List String) : Exec Unit :=
  let names := [("ignore-leading-blanks", 'b'), ("dictionary-order", 'd'), ("ignore-case", 'f'),
    ("general-numeric-sort", 'g'), ("ignore-nonprinting", 'i'), ("month-sort", 'M'), ("human-numeric-sort", 'h'),
    ("numeric-sort", 'n'), ("random-sort", 'R'), ("reverse", 'r'), ("version-sort", 'V'), ("check", 'c'),
    ("key", 'k'), ("merge", 'm'), ("output", 'o'), ("stable", 's'), ("field-separator", 't'), ("unique", 'u'),
    ("zero-terminated", 'z'), ("buffer-size", 'S'), ("temporary-directory", 'T'), ("parallel", '\x01'),
    ("batch-size", '\x01'), ("compress-program", '\x01'), ("random-source", '\x01'), ("sort", '\x02'), ("debug", '\x03')]
  withArguments { letters := "bdfgiMhnRrVcCk:mo:sS:t:T:uz\x01:\x02:\x03", names } 2 args fun a => do
    let a := { a with flags := a.flags.flatMap fun (f : Char × String) => if f.1 = '\x02' then (Sorting.named f.2).toList.map (·, "") else [f] }
    let fail (message : String) : Exec Unit := do
      complain message
      status 2
    match (a.all 'k').mapM Sorting.keyOf with
    | .error message => fail message
    | .ok keys =>
      let tab? := a.get? 't'
      if tab? = some "" then fail "empty tab"
      else if tab?.any fun t => 1 < t.length && t ≠ "\\0" then
        fail ("multi-character tab " ++ Quotation.always (tab?.getD ""))
      else
        let order : Sorting.Order := {
          keys
          separator := tab?.bind fun t => if t = "\\0" then some '\x00' else t.toList.head?
          manner := (Sorting.mannerOf (a.flags.map Prod.fst)).getD Sorting.plain
          lastResort := ! a.has 's' && ! a.has 'u' }
        let checks := a.has 'c' || a.has 'C'
        let failed (opening : Bool) (name : String) (e : OsError) : Exec Unit := do
          complain ((if opening then "cannot read: " else "read failed: ") ++ Quotation.whereNeeded name ++ ": " ++
            e.text)
          status 2
          halt .ended
        let found ← gather failed a.operands
        let stop := if a.has 'z' then '\x00' else '\n'
        let linesOf (text : String) : List String :=
          let ls := Text.split stop text
          if ls.getLast? = some "" then ls.dropLast else ls
        let parts := found.map fun (_, text) => (linesOf text).map order.row
        let rows := parts.flatten
        if checks then
          match Sorting.disorder? order (a.has 'u') 1 rows with
          | none => return
          | some (n, line) =>
            if ! a.has 'C' then
              complain ((found.headD ("-", "")).1 ++ ":" ++ toString n ++ ": disorder: " ++ line)
            status 1
        else
          let inOrder (x y : Sorting.Row) : Bool := ! (order.compare x y).isGT
          let sorted := if a.has 'm' then Sorting.mergeRows inOrder (rows.length + 1) parts else rows.mergeSort inOrder
          let kept := if a.has 'u' then Sorting.dropEqual sorted else sorted
          let ready ← match a.get? 'o' with
            | none => pure true
            | some target => do
              match ← openFile target .write with
              | .ok h =>
                modify (·.bind 1 (some h))
                pure true
              | .error e =>
                fail ("open failed: " ++ Quotation.whereNeeded target ++ ": " ++ e.text)
                pure false
          if ready then
            for r in kept do print (r.line ++ String.ofList [stop])

end Exec

end Flowline.Shell
