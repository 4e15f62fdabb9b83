import Flowline.Text
import Flowline.Json.Fault

/-!
# Reading JSON, piece by piece

A reader takes what is left of the text and gives a value and the rest, or the first fault.  This
module has the readers below the level of whole values: spaces, words, numbers, strings, and the
steps from one item or member to the next.
-/

namespace Flowline.Json

/-- Takes the text still to be read; gives a value and what follows it. -/
abbrev Reader (α : Type) := List Char → Except Fault (α × List Char)

namespace Reader

def isSpace (c : Char) : Bool := c = ' ' || c = '\n' || c = '\t' || c = '\r'

def skipSpace (cs : List Char) : List Char := cs.dropWhile isSpace

/-- The rest after the letters of a word. -/
def word : List Char → List Char → Except Fault (List Char)
  | [], cs => .ok cs
  | _ :: _, [] => .error (.unfinished .value)
  | w :: ws, c :: cs => if c = w then word ws cs else .error .expectedWord

/-! ## Numbers -/

/-- Appends decimal digits to a number as long as it stays within 64 bits; also gives the count of
digits from the first that does not fit. -/
def absorb : Nat → List Char → Nat × Nat
  | n, [] => (n, 0)
  | n, d :: ds =>
    let m := 10 * n + (d.toNat - '0'.toNat)
    if m ≤ Text.maxWord then absorb m ds else (n, ds.length + 1)

/-- `10 ^ k`, for `k ≤ 308`. -/
def powerOfTen (k : Nat) : Float := Float.ofScientific 1 false k

/-- `x · 10 ^ e`: one multiplication or division by a power of ten where one is enough, and steps of
`10 ^ 308` towards zero before that. -/
def scale : Nat → Float → Int → Except Fault Float
  | 0, _, _ => .ok 0
  | fuel + 1, x, e =>
    if e.natAbs ≤ 308 then
      if 0 ≤ e then
        let y := x * powerOfTen e.natAbs
        if y.isInf then .error .outOfRange else .ok y
      else .ok (x / powerOfTen e.natAbs)
    else if x == 0 then .ok x
    else if 0 ≤ e then .error .outOfRange
    else scale fuel (x / powerOfTen 308) (e + 308)

/-- The double of a decimal significand, exponent and sign. -/
def double (negative : Bool) (significand : Nat) (exponent : Int) : Except Fault Number := do
  let x ← scale 4 (Float.ofNat significand) exponent
  return .float (if negative then -x else x)

/-- The number of a significand within 64 bits that has neither fraction nor exponent. -/
def whole (negative : Bool) (n : Nat) : Number :=
  if ! negative then .int n
  else if n = 0 || 0x8000000000000000 < n then .float (-(Float.ofNat n))
  else .int (-n)

/-- What follows the exponent mark. -/
def exponent (negative : Bool) (significand : Nat) (e : Int) (cs : List Char) :
    Except Fault (Number × List Char) :=
  let (down, cs) := match cs with
    | '+' :: rest => (false, rest)
    | '-' :: rest => (true, rest)
    | _ => (false, cs)
  let ds := cs.takeWhile Char.isDigit
  if ds.isEmpty then .error (if cs.isEmpty then .unfinished .value else .badNumber)
  else do
    let n : Int := Text.digitsValue ds
    let x ← double negative significand (if down then e - n else e + n)
    return (x, cs.dropWhile Char.isDigit)

/-- What follows the point. -/
def fraction (negative : Bool) (significand dropped : Nat) (cs : List Char) :
    Except Fault (Number × List Char) :=
  let ds := cs.takeWhile Char.isDigit
  let rest := cs.dropWhile Char.isDigit
  if ds.isEmpty then .error (if rest.isEmpty then .unfinished .value else .badNumber)
  else
    let (significand, unread) := absorb significand ds
    let e : Int := Int.ofNat dropped - Int.ofNat (ds.length - unread)
    match rest with
    | 'e' :: rest => exponent negative significand e rest
    | 'E' :: rest => exponent negative significand e rest
    | _ => do return (← double negative significand e, rest)

/-- The digits before the point, and what follows them. -/
def wholePart (cs : List Char) : Except Fault (List Char × List Char) :=
  match cs with
  | [] => .error (.unfinished .value)
  | '0' :: rest =>
    match rest with
    | [] => .ok (['0'], [])
    | c :: _ => if c.isDigit then .error .badNumber else .ok (['0'], rest)
  | c :: _ =>
    if c.isDigit then .ok (cs.takeWhile Char.isDigit, cs.dropWhile Char.isDigit)
    else .error .badNumber

/-- A number after its sign. -/
def unsigned (negative : Bool) : Reader Number := fun cs => do
  let (ds, rest) ← wholePart cs
  let (significand, dropped) := absorb 0 ds
  match rest with
  | '.' :: rest => fraction negative significand dropped rest
  | 'e' :: rest => exponent negative significand dropped rest
  | 'E' :: rest => exponent negative significand dropped rest
  | _ =>
    if dropped = 0 then return (whole negative significand, rest)
    else return (← double negative significand dropped, rest)

/-- A number. -/
def number : Reader Number
  | '-' :: cs => unsigned true cs
  | cs => unsigned false cs

/-! ## Strings -/

/-- Where in a string literal a reader stands. -/
inductive TextState
  | plain
  | escape
  /-- In the digits of a `\u` escape, perhaps the second of a pair. -/
  | hex (first : Option Nat) (value : Nat) (missing : Nat)
  /-- After the first escape of a pair, and perhaps its successor's backslash. -/
  | pair (first : Nat) (backslash : Bool)

/-- Whether at least four bytes are left. -/
def hasFourBytes (cs : List Char) : Bool := 4 ≤ (String.ofList (cs.take 4)).utf8ByteSize

/-- The character after a backslash. -/
def escaped? (c : Char) : Option Char :=
  if c = '"' || c = '\\' || c = '/' then some c
  else if c = 'b' then some '\x08'
  else if c = 'f' then some '\x0c'
  else if c = 'n' then some '\n'
  else if c = 'r' then some '\r'
  else if c = 't' then some '\t'
  else none

def isHighSurrogate (n : Nat) : Bool := 0xD800 ≤ n && n ≤ 0xDBFF

def isLowSurrogate (n : Nat) : Bool := 0xDC00 ≤ n && n ≤ 0xDFFF

/-- The character of a surrogate pair. -/
def pairChar (high low : Nat) : Char :=
  Char.ofNat ((high - 0xD800) * 0x400 + (low - 0xDC00) + 0x10000)

/-- The rest of a string literal after its opening quote; `acc` holds the characters read so far,
last first. -/
def text : TextState → List Char → Reader String
  | .plain, _, [] => .error (.unfinished .string)
  | .plain, acc, c :: cs =>
    if c = '"' then .ok (String.ofList acc.reverse, cs)
    else if c = '\\' then text .escape acc cs
    else if c.toNat < 0x20 then .error .controlCharacter
    else text .plain (c :: acc) cs
  | .escape, _, [] => .error (.unfinished .string)
  | .escape, acc, c :: cs =>
    if c = 'u' then
      if hasFourBytes cs then text (.hex none 0 4) acc cs else .error (.unfinished .string)
    else match escaped? c with
      | some e => text .plain (e :: acc) cs
      | none => .error .badEscape
  | .hex _ _ _, _, [] => .error (.unfinished .string)
  | .hex first value missing, acc, c :: cs =>
    match Text.hexValue? c with
    | none => .error .badEscape
    | some d =>
      let n := 16 * value + d
      if 1 < missing then text (.hex first n (missing - 1)) acc cs
      else match first with
        | none =>
          if isLowSurrogate n then .error .loneSurrogate
          else if isHighSurrogate n then text (.pair n false) acc cs
          else text .plain (Char.ofNat n :: acc) cs
        | some high =>
          if isLowSurrogate n then text .plain (pairChar high n :: acc) cs
          else .error .loneSurrogate
  | .pair _ _, _, [] => .error (.unfinished .string)
  | .pair first false, acc, c :: cs =>
    if c = '\\' then text (.pair first true) acc cs else .error .unpairedSurrogate
  | .pair first true, acc, c :: cs =>
    if c = 'u' then
      if hasFourBytes cs then text (.hex (some first) 0 4) acc cs else .error (.unfinished .string)
    else .error .unpairedSurrogate

/-- The rest of a string literal after its opening quote. -/
def textTail : Reader String := text .plain []

/-! ## From item to item -/

/-- Where the next item of a list starts, or nothing before the closing bracket. -/
def nextItem (first : Bool) (cs : List Char) : Except Fault (Option (List Char)) :=
  match skipSpace cs with
  | [] => .error (.unfinished .list)
  | ']' :: _ => .ok none
  | c :: rest =>
    if first then .ok (some (c :: rest))
    else if c = ',' then
      match skipSpace rest with
      | [] => .error (.unfinished .value)
      | ']' :: _ => .error .trailingComma
      | rest => .ok (some rest)
    else .error .expectedListEnd

/-- The rest after the closing bracket of a list in which no further item is wanted. -/
def endList (cs : List Char) : Except Fault (List Char) :=
  match skipSpace cs with
  | [] => .error (.unfinished .list)
  | ']' :: rest => .ok rest
  | ',' :: rest =>
    match skipSpace rest with
    | ']' :: _ => .error .trailingComma
    | _ => .error .trailingText
  | _ => .error .trailingText

/-- The rest after the opening quote of the next key, or nothing before the closing brace. -/
def nextKey (first : Bool) (cs : List Char) : Except Fault (Option (List Char)) :=
  match skipSpace cs with
  | [] => .error (.unfinished .object)
  | '\x7d' :: _ => .ok none
  | c :: rest =>
    if first then
      if c = '"' then .ok (some rest) else .error .keyNotString
    else if c = ',' then
      match skipSpace rest with
      | [] => .error (.unfinished .value)
      | '"' :: rest => .ok (some rest)
      | '\x7d' :: _ => .error .trailingComma
      | _ => .error .keyNotString
    else .error .expectedObjectEnd

/-- The rest after a colon. -/
def colon (cs : List Char) : Except Fault (List Char) :=
  match skipSpace cs with
  | [] => .error (.unfinished .object)
  | ':' :: rest => .ok rest
  | _ => .error .expectedColon

/-- The rest after the bracket or brace that `nextItem` or `nextKey` stopped at. -/
def afterClose (cs : List Char) : List Char := (skipSpace cs).drop 1

/-- The items of a list up to its closing bracket, at most `fuel` of them. -/
def items (item : Reader α) : Nat → Bool → List α → Reader (List α)
  | 0, _, _, _ => .error (.unfinished .list)
  | fuel + 1, first, acc, cs => do
    match ← nextItem first cs with
    | none => return (acc.reverse, afterClose cs)
    | some cs =>
      let (x, cs) ← item cs
      items item fuel false (x :: acc) cs

/-- The members of an object up to its closing brace, at most `fuel` of them.  The reader of a member
starts after its key. -/
def members (member : σ → String → Reader σ) : Nat → Bool → σ → Reader σ
  | 0, _, _, _ => .error (.unfinished .object)
  | fuel + 1, first, s, cs => do
    match ← nextKey first cs with
    | none => return (s, afterClose cs)
    | some cs =>
      let (key, cs) ← textTail cs
      let (s, cs) ← member s key cs
      members member fuel false s cs

/-- Nothing but spaces is left. -/
def finish (r : Except Fault (α × List Char)) : Except Fault α := do
  let (x, cs) ← r
  if (skipSpace cs).isEmpty then return x else throw .trailingText

end Reader

end Flowline.Json
