import Flowline.Shell.Bytes

/-!
# Arithmetic

Expressions on 64-bit whole numbers, with variables and assignments.
-/

namespace Flowline.Shell.Arithmetic

inductive Token
  | number (n : Int)
  | name (s : String)
  | op (s : String)
  deriving DecidableEq

inductive Fault
  /-- Something else stands where this has to stand. -/
  | expecting (what : String)
  | divisionByZero
  /-- The value of a variable is no number. -/
  | illegalNumber (text : String)

/-- The operators, longer ones first. -/
def operators : List String := ["<<=", ">>=", "<<", ">>", "<=", ">=", "==", "!=", "&&", "||", "+=", "-=",
  "*=", "/=", "%=", "&=", "|=", "^=", "+", "-", "*", "/", "%", "<", ">", "=", "&", "|", "^", "!", "~", "(",
  ")", "?", ":", ","]

/-- The characters of each operator. -/
def spelledOperators : List (List Char × String) := operators.map fun o => (o.toList, o)

/-- A number as a signed word.  Small numbers, which are common, stay as they are. -/
def wrap (n : Int) : Int := if n.natAbs < 0x80000000 then n else Int.bmod n UInt64.size

/-- The greatest signed word. -/
def greatest : Int := UInt64.size / 2 - 1

/-- The number that a text denotes: decimal, octal after `0`, hexadecimal after `0x`. -/
def constant? (cs : List Char) : Option Int :=
  let inBase (base : Nat) (digits : List Char) : Option Int :=
    digits.foldl (fun acc c =>
      match acc, Text.hexValue? c with
      | some n, some d => if d < base then some (base * n + d) else none
      | _, _ => none) (some 0)
  match cs with
  | '0' :: 'x' :: rest => inBase 16 rest
  | '0' :: 'X' :: rest => inBase 16 rest
  | '0' :: rest => inBase 8 rest
  | cs => inBase 10 cs

/-- The digits of the number that some characters start with, its mark included. -/
def numeral (cs : List Char) : List Char :=
  let isHex (c : Char) : Bool := (Text.hexValue? c).isSome
  match cs with
  | '0' :: x :: d :: rest =>
    if (x = 'x' || x = 'X') && isHex d then '0' :: x :: (d :: rest).takeWhile isHex
    else '0' :: (x :: d :: rest).takeWhile fun c => '0' ≤ c && c ≤ '7'
  | '0' :: rest => '0' :: rest.takeWhile fun c => '0' ≤ c && c ≤ '7'
  | cs => cs.takeWhile Char.isDigit

/-- The tokens of a text; what is none stands for itself. -/
def tokens : Nat → List Char → List Token
  | 0, _ => []
  | _, [] => []
  | fuel + 1, c :: cs =>
    if isSpace c then tokens fuel cs
    else if c.isDigit then
      let digits := numeral (c :: cs)
      let n := (constant? digits).getD 0
      .number (min n greatest) :: tokens fuel ((c :: cs).drop digits.length)
    else if c.isAlpha || c = '_' then
      let name := (c :: cs).takeWhile fun c => c.isAlphanum || c = '_'
      .name (String.ofList name) :: tokens fuel ((c :: cs).drop name.length)
    else
      match spelledOperators.find? fun (spelled, _) => spelled.isPrefixOf (c :: cs) with
      | some (spelled, o) => .op o :: tokens fuel ((c :: cs).drop spelled.length)
      | none => .op (String.ofList [c]) :: tokens fuel cs

/-- What is left to read, and the values of variables. -/
structure State where
  tokens : List Token
  get : String → Option String
  /-- Assignments, the latest first. -/
  set : List (String × Int)

abbrev Eval := ExceptT Fault (StateM State)

def accept (o : String) : Eval Bool := do
  let s ← get
  match s.tokens with
  | .op p :: rest =>
    if p = o then
      set { s with tokens := rest }
      return true
    else return false
  | _ => return false

def value (name : String) : Eval Int := do
  let s ← get
  match s.set.lookup name with
  | some n => return n
  | none =>
    let text := Text.trim ((s.get name).getD "")
    if text = "" then return 0
    let digits := Text.dropSign text.toList
    match digits.isEmpty, constant? digits with
    | false, some n => return wrap (if text.toList.head? = some '-' then - n else n)
    | _, _ => throw (.illegalNumber text)

def assign (name : String) (n : Int) : Eval Int := do
  modify fun s => { s with set := (name, n) :: s.set }
  return n

def truth (b : Bool) : Int := if b then 1 else 0

/-- The bits of a number as an unsigned word. -/
def bits (n : Int) : Nat := (n % UInt64.size).toNat

def binary (o : String) (a b : Int) : Eval Int :=
  match o with
  | "+" => return wrap (a + b)
  | "-" => return wrap (a - b)
  | "*" => return wrap (a * b)
  | "/" => if b = 0 then throw .divisionByZero else return wrap (Int.tdiv a b)
  | "%" => if b = 0 then throw .divisionByZero else return wrap (Int.tmod a b)
  | "<<" => return wrap (a * Nat.pow 2 (bits b % 64))
  | ">>" => return Int.fdiv a (Nat.pow 2 (bits b % 64))
  | "<" => return truth (a < b)
  | "<=" => return truth (a ≤ b)
  | ">" => return truth (b < a)
  | ">=" => return truth (b ≤ a)
  | "==" => return truth (a = b)
  | "!=" => return truth (a ≠ b)
  | "&" => return wrap (Nat.land (bits a) (bits b))
  | "^" => return wrap (Nat.xor (bits a) (bits b))
  | "|" => return wrap (Nat.lor (bits a) (bits b))
  | "&&" => return truth (a ≠ 0 && b ≠ 0)
  | "||" => return truth (a ≠ 0 || b ≠ 0)
  | _ => throw (.expecting "primary")

/-- The binary operators by precedence, those that bind least first. -/
def levels : List (List String) := [["||"], ["&&"], ["|"], ["^"], ["&"], ["==", "!="],
  ["<=", ">=", "<", ">"], ["<<", ">>"], ["+", "-"], ["*", "/", "%"]]

/-- The operators that assign, each with the one that it applies. -/
def assignments : List (String × String) := [("=", ""), ("+=", "+"), ("-=", "-"), ("*=", "*"), ("/=", "/"),
  ("%=", "%"), ("&=", "&"), ("|=", "|"), ("^=", "^"), ("<<=", "<<"), (">>=", ">>")]

mutual

/-- An assignment or a choice. -/
def expression : Nat → Eval Int
  | 0 => throw (.expecting "primary")
  | fuel + 1 => do
    match (← get).tokens with
    | .name x :: .op o :: rest =>
      match assignments.lookup o with
      | some how =>
        modify fun s => { s with tokens := rest }
        let b ← expression fuel
        if how = "" then assign x b else assign x (← binary how (← value x) b)
      | none => choice fuel
    | _ => choice fuel

def choice : Nat → Eval Int
  | 0 => throw (.expecting "primary")
  | fuel + 1 => do
    let test ← level fuel levels
    if ← accept "?" then
      let before := (← get).set
      let a ← expression fuel
      let middle := (← get).set
      if ! (← accept ":") then throw (.expecting "':'")
      if test ≠ 0 then
        let _ ← choice fuel
        modify fun s => { s with set := middle }
        return a
      else
        modify fun s => { s with set := before }
        choice fuel
    else return test

def level : Nat → List (List String) → Eval Int
  | 0, _ => throw (.expecting "primary")
  | fuel + 1, [] => unary fuel
  | fuel + 1, ops :: rest => do operands fuel ops rest (← level fuel rest)

/-- The further operands of operators of one precedence. -/
def operands : Nat → List String → List (List String) → Int → Eval Int
  | 0, _, _, _ => throw (.expecting "primary")
  | fuel + 1, ops, rest, a => do
    match (← get).tokens with
    | .op o :: more =>
      if ops.contains o then
        modify fun s => { s with tokens := more }
        let before := (← get).set
        let b ← level fuel rest
        let idle := (o = "&&" && a = 0) || (o = "||" && a ≠ 0)
        if idle then modify fun s => { s with set := before }
        operands fuel ops rest (← if idle then pure (truth (a ≠ 0)) else binary o a b)
      else return a
    | _ => return a

def unary : Nat → Eval Int
  | 0 => throw (.expecting "primary")
  | fuel + 1 => do
    if ← accept "-" then return wrap (- (← unary fuel))
    if ← accept "+" then unary fuel
    else if ← accept "!" then return truth ((← unary fuel) = 0)
    else if ← accept "~" then return - (← unary fuel) - 1
    else if ← accept "(" then
      let n ← expression fuel
      if ← accept ")" then return n else throw (.expecting "')'")
    else
      let s ← get
      match s.tokens with
      | .number n :: rest => set { s with tokens := rest }; return n
      | .name x :: rest => set { s with tokens := rest }; value x
      | _ => throw (.expecting "primary")

end

/-- The value of an expression and the assignments in it, the earliest first. -/
def eval (get : String → Option String) (text : String) : Except Fault (Int × List (String × Int)) :=
  let ts := tokens (text.length + 1) text.toList
  match (expression (16 * ts.length + 64)).run.run ⟨ts, get, []⟩ with
  | (.ok n, ⟨[], _, assigned⟩) => .ok (n, assigned.reverse)
  | (.ok _, _) => .error (.expecting "EOF")
  | (.error fault, _) => .error fault

end Flowline.Shell.Arithmetic
