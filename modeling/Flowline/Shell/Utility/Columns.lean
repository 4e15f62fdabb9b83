import Flowline.Shell.Utility.Layout

/-!
# Columns and neighbours

`cut` picks columns, `uniq` looks at lines that follow each other, and `comm` at two sorted inputs.
-/

namespace Flowline.Shell

/-! ## Positions -/

/-- Positions in a line from one to another, or to its end. -/
structure Span where
  first : Nat
  last : Option Nat

namespace Span

inductive Fault
  | zero
  | malformed (text : String)
  | tooLarge (text : String)
  | decreasing
  | noEndpoint

/-- One item of a list of positions. -/
def ofItem (item : String) : Except Fault Span := do
  let value (cs : List Char) : Except Fault Nat :=
    let digits := cs.takeWhile Char.isDigit
    if digits.length < cs.length then .error (.malformed (String.ofList (cs.drop digits.length)))
    else if UInt64.size ≤ Text.digitsValue digits then .error (.tooLarge (String.ofList digits))
    else .ok (Text.digitsValue digits)
  let cs := item.toList
  let front := cs.takeWhile (· ≠ '-')
  match cs.drop front.length with
  | [] =>
    let n ← value front
    if n = 0 then throw .zero
    return ⟨n, some n⟩
  | _ :: back =>
    if front.isEmpty && back.isEmpty then throw .noEndpoint
    let first ← if front.isEmpty then pure 1 else value front
    if first = 0 then throw .zero
    if back.isEmpty then return ⟨first, none⟩
    let last ← value back
    if last < first then throw .decreasing
    return ⟨first, some last⟩

/-- The spans in order, those that touch put together if `join`. -/
def merge : List Span → List Span
  | [] => []
  | s :: rest =>
    match merge rest with
    | [] => [s]
    | t :: more =>
      match s.last with
      | none => [s]
      | some n =>
        if t.first ≤ n then
          ⟨s.first, t.last.map (max n)⟩ :: more
        else s :: t :: more

/-- The spans of a list. -/
def parse (text : String) : Except Fault (List Span) := do
  let items := (Text.pieces (fun c => c = ',' || c = ' ' || c = '\t') text.toList).map String.ofList
  let spans ← items.mapM ofItem
  return merge (spans.mergeSort fun a b => a.first ≤ b.first)

/-- The positions that are in none of some spans. -/
def complement : Nat → List Span → List Span
  | next, [] => [⟨next, none⟩]
  | next, s :: rest =>
    (if next < s.first then [⟨next, some (s.first - 1)⟩] else []) ++
      match s.last with
      | none => []
      | some n => complement (n + 1) rest

/-- The members at the positions of a span. -/
def pick {α : Type} (s : Span) (xs : List α) : List α :=
  match s.last with
  | none => xs.drop (s.first - 1)
  | some n => (xs.take n).drop (s.first - 1)

end Span

namespace Exec

/-- What `cut` makes of a line; nothing if it is left out. -/
def cutLine (a : Arguments) (byField : Bool) (spans : List Span) (delimiter : Char) (line : String) : Option String :=
  if byField then
    let fields := Text.split delimiter line
    if fields.length ≤ 1 then if a.has 's' then none else some line
    else some (String.intercalate ((a.get? '\x02').getD (String.ofList [delimiter])) (spans.flatMap (·.pick fields)))
  else
    let pieces := (spans.map fun s => String.ofList (s.pick line.toList)).filter (· ≠ "")
    some (String.intercalate ((a.get? '\x02').getD "") pieces)

def cut (args : List String) : Exec Unit :=
  let names := [("bytes", 'b'), ("characters", 'c'), ("fields", 'f'), ("delimiter", 'd'), ("only-delimited", 's'),
    ("complement", '\x01'), ("output-delimiter", '\x02'), ("zero-terminated", 'z')]
  withArguments { letters := "b:c:f:d:nsz\x01\x02:", names } 1 args fun a => do
    let lists := a.flags.filter fun f => "bcf".toList.contains f.1
    let delimiter := (a.get? 'd').getD "\t"
    match lists with
    | [] => misuse "you must specify a list of bytes, characters, or fields" 1
    | _ :: _ :: _ => misuse "only one list may be specified" 1
    | [(letter, list)] =>
      let byField := letter = 'f'
      if 1 < delimiter.length then misuse "the delimiter must be a single character" 1
      else if ! byField && a.has 'd' then
        misuse "an input delimiter may be specified only when operating on fields" 1
      else if ! byField && a.has 's' then
        misuse "suppressing non-delimited lines makes sense\n\tonly when operating on fields" 1
      else
        match Span.parse list with
        | .error .zero =>
          misuse ((if byField then "fields" else "byte/character positions") ++ " are numbered from 1") 1
        | .error (.malformed text) =>
          misuse ("invalid " ++ (if byField then "field value " else "byte/character position ") ++
            Quotation.always text) 1
        | .error (.tooLarge text) =>
          misuse ((if byField then "field number " else "byte/character offset ") ++ Quotation.always text ++
            " is too large") 1
        | .error .decreasing => misuse "invalid decreasing range" 1
        | .error .noEndpoint => misuse "invalid range with no endpoint: -" 1
        | .ok spans =>
          let spans := if a.has '\x01' then Span.complement 1 spans else spans
          let stop := if a.has 'z' then '\x00' else '\n'
          let _ ← foldInputs (blame 1) (fun () _ h => foldLines stop h (fun () line _ => do
            match cutLine a byField spans (delimiter.toList.headD '\x00') line with
            | some text => print (text ++ String.ofList [stop])
            | none => pure ()
            return ((), true)) ()) (inputNames a.operands) ()

/-! ## Repeated lines -/

/-- A line without some of its fields, each with the blanks before it. -/
def skipFields : Nat → List Char → List Char
  | 0, cs => cs
  | n + 1, cs =>
    let blank (c : Char) : Bool := c = ' ' || c = '\t'
    skipFields n ((cs.dropWhile blank).dropWhile fun c => ! blank c)

/-- What is compared of a line. -/
def uniqKey (a : Arguments) (line : String) : List Char :=
  let number (letter : Char) : Option Nat := (a.get? letter).bind fun s => (integer? s).map Int.toNat
  let cs := (skipFields ((number 'f').getD 0) line.toList).drop ((number 's').getD 0)
  let cs := match number 'w' with
    | some n => cs.take n
    | none => cs
  if a.has 'i' then cs.map Char.toLower else cs

/-- Where empty lines stand around the groups of lines that are shown. -/
structure Spacing where
  before : Bool
  between : Bool
  after : Bool

/-- The spacing that an option asks for. -/
def Spacing.ofName? : String → Option Spacing
  | "none" => some ⟨false, false, false⟩
  | "prepend" => some ⟨true, true, false⟩
  | "append" => some ⟨false, true, true⟩
  | "separate" => some ⟨false, true, false⟩
  | "both" => some ⟨true, true, true⟩
  | _ => none

/-- Shows a run of lines that are equal in what is compared; whether anything has been shown. -/
def showRun (a : Arguments) (stop : String) (spacing : Spacing) (shownBefore : Bool) (lines : List String) : Exec Bool := do
  let count := lines.length
  let all := a.has 'D' || a.has '\x01'
  let isMeant := a.has '\x01' ||
    (! lines.isEmpty && (! (a.has 'd' || a.has 'D') || 1 < count) && (! a.has 'u' || count = 1))
  if ! isMeant then return shownBefore
  if if shownBefore then spacing.between else spacing.before then print stop
  if all then for line in lines do print (line ++ stop)
  else print ((if a.has 'c' then padLeft 7 (toString count) ++ " " else "") ++ lines.headD "" ++ stop)
  return true

/-- Options in an old style: a number after a minus sign skips fields, after a plus sign characters. -/
def oldSkips : List String → List String
  | [] => []
  | "--" :: rest => "--" :: rest
  | x :: rest =>
    match x.toList with
    | '-' :: c :: cs => if (c :: cs).all Char.isDigit then "-f" :: String.ofList (c :: cs) :: oldSkips rest
        else x :: oldSkips rest
    | '+' :: c :: cs => if (c :: cs).all Char.isDigit then "-s" :: String.ofList (c :: cs) :: oldSkips rest
        else x :: oldSkips rest
    | _ => x :: oldSkips rest

def uniq (args : List String) : Exec Unit :=
  let names := [("count", 'c'), ("repeated", 'd'), ("all-repeated", '\x02'), ("skip-fields", 'f'), ("ignore-case", 'i'),
    ("skip-chars", 's'), ("unique", 'u'), ("check-chars", 'w'), ("zero-terminated", 'z'), ("group", '\x01')]
  withArguments { letters := "cdDf:is:uw:z\x01::\x02::", names } 1 (oldSkips args) fun a => do
    let a := if a.has '\x02' then { a with flags := ('D', "") :: a.flags } else a
    let wrong := ['f', 's', 'w'].find? fun letter => (a.get? letter).any fun s => (integer? s).isNone
    let given (letter : Char) (default : String) : String := match a.get? letter with
      | some "" => default
      | some s => s
      | none => "none"
    let spacing := if a.has '\x01' then given '\x01' "separate" else given '\x02' "none"
    match wrong, a.operands with
    | some letter, _ =>
      complain ((a.get? letter).getD "" ++ ": invalid number of " ++ (match letter with
        | 'f' => "fields to skip"
        | 's' => "bytes to skip"
        | _ => "bytes to compare"))
      status 1
    | none, _ :: _ :: x :: _ => misuse ("extra operand " ++ Quotation.always x) 1
    | none, operands =>
      if a.has '\x01' && (a.has 'c' || a.has 'd' || a.has 'D' || a.has 'u') then
        misuse "--group is mutually exclusive with -c/-d/-D/-u" 1
      else if a.has 'D' && a.has 'c' then
        misuse "printing all duplicated lines and repeat counts is meaningless" 1
      else match Spacing.ofName? spacing with
      | none =>
        let (option, valid) := if a.has '\x01' then ("group", ["prepend", "append", "separate", "both"])
          else ("all-repeated", ["none", "prepend", "separate"])
        complain ("invalid argument " ++ Quotation.always spacing ++ " for " ++ Quotation.always ("--" ++ option))
        tell 2 (joinLines ("Valid arguments are:" :: valid.map fun s => "  - " ++ Quotation.always s))
        offerHelp
        status 1
      | some spacing =>
        if ← redirected operands then showAll a spacing operands
where
  /-- Has the output go to the second of some files, if there is one. -/
  redirected (operands : List String) : Exec Bool := do
    match operands with
    | [_, target] =>
      match ← openFile target .write with
      | .ok h =>
        modify (·.bind 1 (some h))
        return true
      | .error e =>
        blame 1 true target e
        return false
    | _ => return true
  showAll (a : Arguments) (spacing : Spacing) (operands : List String) : Exec Unit := do
    let stop := if a.has 'z' then '\x00' else '\n'
    let end_ := String.ofList [stop]
    let failed (opening : Bool) (name : String) (e : OsError) : Exec Unit := do
      if opening then complain (Quotation.whereNeeded name ++ ": " ++ e.text)
      else complain ("error reading " ++ Quotation.always name ++ ": " ++ e.text)
      failWith 1
    let (run, shown) ← foldInputs failed (fun s _ h => foldLines stop h (fun (s : List String × Bool) line _ => do
      match s with
      | ([], shown) => return (([line], shown), true)
      | (first :: rest, shown) =>
        if uniqKey a first = uniqKey a line then return ((first :: rest ++ [line], shown), true)
        else return (([line], ← showRun a end_ spacing shown (first :: rest)), true)) s)
      (inputNames (operands.take 1)) ([], false)
    if ! run.isEmpty then
      let _ ← showRun a end_ spacing shown run
      if spacing.after then print end_

/-! ## Common lines -/

/-- One of two sorted inputs: the line that is looked at with those that follow it, the line before it, and
whether lines out of order have been noticed. -/
structure Sorted where
  ahead : List String
  behind : Option String
  disordered : Bool

/-- Goes on to the next line.  Lines out of order are noticed only if one `looks`; the last two are looked at
once more at the end. -/
def Sorted.advance (looks : Bool) (s : Sorted) : Sorted :=
  match s.ahead with
  | [] => s
  | current :: rest =>
    let (x, y) := match rest with
      | next :: _ => (current, next)
      | [] => (s.behind.getD current, current)
    ⟨rest, some current, s.disordered || (looks && y < x)⟩

/-- What comes of two inputs, step by step. -/
inductive Merged
  /-- A line, with the column that it belongs to. -/
  | row (column : Nat) (line : String)
  /-- One of the inputs turns out to be out of order. -/
  | disorder (input : Nat)

/-- How much is made of lines out of order. -/
inductive OrderCheck
  | never
  /-- Once a line is in one input only. -/
  | unpaired
  /-- And the first such line is the end. -/
  | strict
  deriving BEq

/-- Goes through two inputs at once. -/
def mergeSorted (check : OrderCheck) : Nat → Bool → Sorted → Sorted → List Merged
  | 0, _, _, _ => []
  | fuel + 1, unpaired, a, b =>
    let row? := match a.ahead, b.ahead with
      | [], [] => none
      | [], y :: _ => some (2, y)
      | x :: _, [] => some (1, x)
      | x :: _, y :: _ => match compare x y with
        | .lt => some (1, x)
        | .gt => some (2, y)
        | .eq => some (3, x)
    match row? with
    | none => []
    | some (column, line) =>
      let unpaired := unpaired || column ≠ 3
      let looks := check == .strict || (check == .unpaired && unpaired)
      let a' := if column = 2 then a else a.advance looks
      let b' := if column = 1 then b else b.advance looks
      let found := (if a.disordered = a'.disordered then [] else [.disorder 1]) ++
        (if b.disordered = b'.disordered then [] else [.disorder 2])
      .row column line ::
        if check == .strict && ! found.isEmpty then found.take 1
        else found ++ mergeSorted check fuel unpaired a' b'

def comm (args : List String) : Exec Unit :=
  let names := [("output-delimiter", '\x02'), ("check-order", '\x03'), ("nocheck-order", '\x04'), ("total", '\x05')]
  withArguments { letters := "123z\x02:\x03\x04\x05", names } 1 args fun a => do
    match a.operands with
    | [] => misuse "missing operand" 1
    | [x] => misuse ("missing operand after " ++ Quotation.always x) 1
    | _ :: _ :: x :: _ => misuse ("extra operand " ++ Quotation.always x) 1
    | [first, second] =>
      let found ← gather (blame 1) [first, second]
      match found with
      | [(_, x), (_, y)] =>
        let delimiter := (a.get? '\x02').getD "\t"
        let tabs (shown : List Char) : String := String.join ((shown.filter fun c => ! a.has c).map fun _ => delimiter)
        let xs := splitLines x
        let ys := splitLines y
        let check : OrderCheck := if a.has '\x04' then .never else if a.has '\x03' then .strict else .unpaired
        let merged := mergeSorted check (xs.length + ys.length + 1) false ⟨xs, none, false⟩ ⟨ys, none, false⟩
        for step in merged do
          match step with
          | .row 1 line => if ! a.has '1' then print (line ++ "\n")
          | .row 2 line => if ! a.has '2' then print (tabs ['1'] ++ line ++ "\n")
          | .row _ line => if ! a.has '3' then print (tabs ['1', '2'] ++ line ++ "\n")
          | .disorder n =>
            complain ("file " ++ toString n ++ " is not in sorted order")
            failWith 1
        if a.has '\x05' then
          let size (column : Nat) : String := toString (merged.filter fun
            | .row c _ => c = column
            | .disorder _ => false).length
          print (String.intercalate delimiter [size 1, size 2, size 3, "total"] ++ "\n")
        let isDisordered := merged.any fun
          | .row _ _ => false
          | .disorder _ => true
        if isDisordered && ! a.has '\x03' then complain "input is not in sorted order"
      | _ => return

end Exec

end Flowline.Shell
