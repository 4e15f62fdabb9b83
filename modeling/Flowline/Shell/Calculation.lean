import Flowline.Shell.Regex

/-!
# Calculations with words

What `expr` makes of its arguments: numbers, comparisons and matches.
-/

namespace Flowline.Shell.Calculation

inductive Fault
  | missingArgument (after : String)
  | unexpectedArgument (text : String)
  | unexpectedClosing
  | expectedClosing (after : String)
  | expectedClosingFor (text : String)
  | notNumber
  | divisionByZero
  | pattern (why : Regex.Fault)

/-- The message of a fault; texts are quoted by a function. -/
def Fault.message (quote : String → String) : Fault → String
  | missingArgument after => "syntax error: missing argument after " ++ quote after
  | unexpectedArgument text => "syntax error: unexpected argument " ++ quote text
  | unexpectedClosing => "syntax error: unexpected ')'"
  | expectedClosing after => "syntax error: expecting ')' after " ++ quote after
  | expectedClosingFor text => "syntax error: expecting ')' instead of " ++ quote text
  | notNumber => "non-integer argument"
  | divisionByZero => "division by zero"
  | pattern why => why.message

/-- The words that are left, and the last one that was taken. -/
structure Cursor where
  words : List String
  last : String

abbrev Eval := StateT Cursor (Except Fault)

/-- The whole number that digits and perhaps a minus sign spell. -/
def whole? (s : String) : Option Int :=
  match s.toList with
  | '-' :: cs => if ! cs.isEmpty && cs.all Char.isDigit then some (-(Text.digitsValue cs : Int)) else none
  | cs => if ! cs.isEmpty && cs.all Char.isDigit then some (Text.digitsValue cs) else none

def number (s : String) : Eval Int :=
  match whole? s with
  | some n => return n
  | none => throw .notNumber

def isNull (s : String) : Bool := s = "" || whole? s = some 0

/-- The next word. -/
def take : Eval String := do
  let c ← get
  match c.words with
  | [] => throw (.missingArgument c.last)
  | w :: ws =>
    set (⟨ws, w⟩ : Cursor)
    return w

/-- The part of a text that a pattern matches at its start: the first group, or the length. -/
def matched (s pattern : String) : Eval String :=
  match Regex.parse? { extended := false, strict := false } pattern with
  | .error why => throw (.pattern why)
  | .ok r =>
    let hasGroup := 1 < (pattern.splitOn "\\(").length
    match r.atStart false s with
    | none => return if hasGroup then "" else "0"
    | some p => return if hasGroup then String.ofList ((p.groups.lookup 1).getD []) else toString p.column

def compared (o : Ordering → Bool) (a b : String) : String :=
  let c := match whole? a, whole? b with
    | some x, some y => compare x y
    | _, _ => compare a b
  if o c then "1" else "0"

/-- The value of two operands; if `live` is not set it does not matter. -/
def binary (live : Bool) (op a b : String) : Eval String := do
  if ! live then return "0"
  match op with
  | "|" => return if ! isNull a then a else if ! isNull b then b else "0"
  | "&" => return if isNull a || isNull b then "0" else a
  | "=" => return compared (· == .eq) a b
  | "==" => return compared (· == .eq) a b
  | "!=" => return compared (· != .eq) a b
  | "<" => return compared (· == .lt) a b
  | "<=" => return compared (· != .gt) a b
  | ">" => return compared (· == .gt) a b
  | ">=" => return compared (· != .lt) a b
  | "+" => return toString ((← number a) + (← number b))
  | "-" => return toString ((← number a) - (← number b))
  | "*" => return toString ((← number a) * (← number b))
  | ":" => matched a b
  | op =>
    let x ← number a
    let y ← number b
    if y = 0 then throw .divisionByZero
    return toString (if op = "/" then Int.tdiv x y else Int.tmod x y)

/-- The operators by precedence, those that bind least first. -/
def levels : List (List String) :=
  [["|"], ["&"], ["=", "==", "!=", "<", "<=", ">", ">="], ["+", "-"], ["*", "/", "%"], [":"]]

def substring (s : String) (start size : Int) : String :=
  if start < 1 || size < 1 then "" else String.ofList ((s.toList.drop (start.toNat - 1)).take size.toNat)

/-- Where the first of some characters stands in a text. -/
def indexOf (s chars : String) : Nat :=
  match s.toList.findIdx? chars.toList.contains with
  | some i => i + 1
  | none => 0

mutual

def level : Nat → Bool → List (List String) → Eval String
  | 0, _, _ => throw .unexpectedClosing
  | fuel + 1, live, [] => primary fuel live
  | fuel + 1, live, ops :: rest => do operands fuel live ops rest (← level fuel live rest)

def operands : Nat → Bool → List String → List (List String) → String → Eval String
  | 0, _, _, _, _ => throw .unexpectedClosing
  | fuel + 1, live, ops, rest, a => do
    let c ← get
    match c.words with
    | op :: more =>
      if ops.contains op then
        set (⟨more, op⟩ : Cursor)
        let needed := live && ! (op = "|" && ! isNull a) && ! (op = "&" && isNull a)
        let b ← level fuel needed rest
        operands fuel live ops rest (← binary live op a b)
      else return a
    | [] => return a

def primary : Nat → Bool → Eval String
  | 0, _ => throw .unexpectedClosing
  | fuel + 1, live => do
    match ← take with
    | "+" => take
    | "length" => return toString (← primary fuel live).length
    | "match" =>
      let a ← primary fuel live
      let b ← primary fuel live
      if live then matched a b else return a
    | "index" =>
      let a ← primary fuel live
      return toString (indexOf a (← primary fuel live))
    | "substr" =>
      let a ← primary fuel live
      let start ← primary fuel live
      let size ← primary fuel live
      match whole? start, whole? size with
      | some i, some n => return substring a i n
      | _, _ => return ""
    | "(" =>
      let a ← level fuel live levels
      let c ← get
      match c.words with
      | [] => throw (.expectedClosing c.last)
      | ")" :: rest =>
        set (⟨rest, ")"⟩ : Cursor)
        return a
      | w :: _ => throw (.expectedClosingFor w)
    | ")" => throw .unexpectedClosing
    | w => return w

end

/-- The value of some words. -/
def eval (words : List String) : Except Fault String :=
  match (level (16 * words.length + 64) true levels).run ⟨words, ""⟩ with
  | .ok (a, ⟨[], _⟩) => .ok a
  | .ok (_, ⟨w :: _, _⟩) => .error (.unexpectedArgument w)
  | .error fault => .error fault

end Flowline.Shell.Calculation
