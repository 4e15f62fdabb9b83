import Flowline.Shell.Pattern
import Flowline.Shell.Utility.Input

/-!
# Characters

`tr`: characters of an input that are replaced, left out, or written once where they are repeated.
-/

namespace Flowline.Shell

/-! ## Sets -/

/-- A part of a set of characters. -/
inductive SetItem
  | one (c : Char)
  | range (a b : Char)
  | named (name : String)
  /-- A character so many times, or as often as needed. -/
  | repeats (c : Char) (times : Option Nat)

namespace SetItem

inductive Fault
  | reversed (a b : Char)
  | unknownClass (name : String)

/-- The character that a backslash and what follows it stand for, and the rest. -/
def escaped (cs : List Char) : Char × List Char :=
  match cs with
  | [] => ('\\', [])
  | c :: rest =>
    if '0' ≤ c && c ≤ '7' then
      let three := (cs.take 3).takeWhile fun c => '0' ≤ c && c ≤ '7'
      let value (ds : List Char) : Nat := ds.foldl (fun n c => 8 * n + (c.toNat - '0'.toNat)) 0
      let digits := if value three < 256 then three else three.take 2
      (Char.ofNat (value digits), cs.drop digits.length)
    else
      (match c with
        | 'n' => '\n'
        | 't' => '\t'
        | 'r' => '\r'
        | 'a' => '\x07'
        | 'b' => '\x08'
        | 'f' => '\x0c'
        | 'v' => '\x0b'
        | c => c, rest)

/-- The next character, escaped or not, and the rest. -/
def nextChar : List Char → Option (Char × List Char)
  | [] => none
  | '\\' :: cs => some (escaped cs)
  | c :: cs => some (c, cs)

/-- How often a character is repeated, and the rest behind the bracket. -/
def repeatCount (cs : List Char) : Option (Option Nat × List Char) :=
  let digits := cs.takeWhile Char.isDigit
  match cs.drop digits.length with
  | ']' :: rest =>
    let base := if digits.head? = some '0' then 8 else 10
    let n := digits.foldl (fun n c => base * n + (c.toNat - '0'.toNat)) 0
    some (if n = 0 then none else some n, rest)
  | _ => none

/-- The item at the start of a set if it is in brackets, and the rest. -/
def bracketed? (cs : List Char) : Except Fault (Option (SetItem × List Char)) := do
  match cs with
  | '[' :: ':' :: rest =>
    let name := rest.takeWhile fun c => c ≠ ':' && c ≠ ']'
    match rest.drop name.length with
    | ':' :: ']' :: rest =>
      if (CharSet.classRanges (String.ofList name)).isEmpty then throw (.unknownClass (String.ofList name))
      return some (.named (String.ofList name), rest)
    | _ => return none
  | '[' :: '=' :: c :: '=' :: ']' :: rest => return some (.one c, rest)
  | '[' :: rest =>
    match nextChar rest with
    | some (c, '*' :: rest) => return (repeatCount rest).map fun (n, rest) => (.repeats c n, rest)
    | _ => return none
  | _ => return none

/-- The items of a set. -/
def parse : Nat → List Char → Except Fault (List SetItem)
  | 0, _ => .ok []
  | fuel + 1, cs => do
    match ← bracketed? cs with
    | some (item, rest) => return item :: (← parse fuel rest)
    | none =>
      match nextChar cs with
      | none => return []
      | some (a, '-' :: rest) =>
        match nextChar rest with
        | some (b, rest) =>
          if b < a then throw (.reversed a b)
          return .range a b :: (← parse fuel rest)
        | none => return [.one a, .one '-']
      | some (a, rest) => return .one a :: (← parse fuel rest)

def ofRange (a b : Char) : List Char := (List.range (b.toNat + 1 - a.toNat)).map fun n => Char.ofNat (a.toNat + n)

/-- The characters of a named class, in order. -/
def ofClass (name : String) : List Char :=
  ((CharSet.classRanges name).flatMap fun (a, b) => ofRange a b).mergeSort fun a b => a ≤ b

/-- The characters of an item; as often as needed means `fill` times. -/
def chars (fill : Nat) : SetItem → List Char
  | one c => [c]
  | range a b => ofRange a b
  | named name => ofClass name
  | repeats c n => List.replicate (n.getD fill) c

def isNamed : SetItem → Bool
  | named _ => true
  | _ => false

def isCase : SetItem → Bool
  | named name => name = "upper" || name = "lower"
  | _ => false

def isOpenRepeat : SetItem → Bool
  | repeats _ none => true
  | _ => false

end SetItem

/-- What is done with characters. -/
structure Exchange where
  deleted : Option (Array Bool)
  mapped : Option (Array Char)
  squeezed : Option (Array Bool)

namespace Exchange

def members (cs : List Char) : Array Bool :=
  cs.foldl (fun a c => a.setIfInBounds c.toNat true) (Array.replicate 256 false)

def has (set : Option (Array Bool)) (c : Char) : Bool := (set.bind (·[c.toNat]?)).getD false

/-- A text after the exchange, and the last character that was written. -/
def apply (e : Exchange) (last : Option Char) (text : String) : Option Char × String :=
  let step (acc : Option Char × List Char) (c : Char) : Option Char × List Char :=
    if has e.deleted c then acc
    else
      let d := (e.mapped.bind (·[c.toNat]?)).getD c
      if has e.squeezed d && acc.1 = some d then acc else (some d, d :: acc.2)
  let (last, out) := text.foldl step (last, [])
  (last, String.ofList out.reverse)

end Exchange

namespace Exec

/-- All characters that are not among some. -/
def otherChars (cs : List Char) : List Char :=
  let set := Exchange.members cs
  ((List.range 256).map Char.ofNat).filter fun c => ! Exchange.has (some set) c

/-- Where the classes of cases start among the characters of some items. -/
def caseStarts : Nat → List SetItem → List Nat
  | _, [] => []
  | n, item :: rest => (if item.isCase then [n] else []) ++ caseStarts (n + (item.chars 0).length) rest

/-- Whether every class of cases in the second set stands where one stands in the first. -/
def isAligned (first second : List SetItem) : Bool :=
  (caseStarts 0 second).all (caseStarts 0 first).contains

/-- What the arguments of `tr` ask for, or what is wrong with them. -/
def exchangeOf (a : Arguments) (first : List SetItem) (second : Option (List SetItem)) : Except String Exchange := do
  let complement := a.has 'c' || a.has 'C'
  if first.any SetItem.isOpenRepeat then throw "the [c*] repeat construct may not appear in string1"
  let set := first.flatMap (·.chars 0)
  let set := if complement then otherChars set else set
  let members := Exchange.members set
  match second with
  | none =>
    if a.has 'd' then return ⟨some members, none, none⟩ else return ⟨none, none, some members⟩
  | some second =>
    let fixed := (second.flatMap (·.chars 0)).length
    let chars := second.flatMap (·.chars (set.length - fixed))
    if a.has 'd' then return ⟨some members, none, some (Exchange.members chars)⟩
    if second.any fun i => i.isNamed && ! i.isCase then
      throw "when translating, the only character classes that may appear in\nstring2 are 'upper' and 'lower'"
    if ! isAligned first second then
      throw "misaligned [:upper:] and/or [:lower:] construct"
    if chars.isEmpty && ! a.has 't' && ! set.isEmpty then
      throw "when not truncating set1, string2 must be non-empty"
    let targets := if a.has 't' then chars
      else chars ++ List.replicate (set.length - chars.length) (chars.getLastD 'x')
    let mapped := (set.zip targets).foldl (fun (m : Array Char) (c, d) => m.setIfInBounds c.toNat d)
      ((List.range 256).map Char.ofNat).toArray
    return ⟨none, some mapped, if a.has 's' then some (Exchange.members chars) else none⟩

def tr (args : List String) : Exec Unit :=
  let names := [("complement", 'c'), ("delete", 'd'), ("squeeze-repeats", 's'), ("truncate-set1", 't')]
  withArguments { letters := "cCdst", names, inFront := true } 1 args fun a => do
    let least := if a.has 'd' = a.has 's' then 2 else 1
    let most := if a.has 'd' && ! a.has 's' then 1 else 2
    let reason := if least = 2 then
        if a.has 'd' then "\nTwo strings must be given when both deleting and squeezing repeats."
        else "\nTwo strings must be given when translating."
      else ""
    match a.operands with
    | [] => misuse "missing operand" 1
    | operands =>
      if operands.length < least then
        misuse ("missing operand after " ++ Quotation.always (operands.getLastD "") ++ reason) 1
      else if most < operands.length then
        misuse ("extra operand " ++ Quotation.always (operands[most]?.getD "") ++
          (if operands.length = 2 then "\nOnly one string may be given when deleting without squeezing repeats."
            else "")) 1
      else
        let read (s : String) : Except String (List SetItem) :=
          match SetItem.parse (s.length + 1) s.toList with
          | .ok items => .ok items
          | .error (.reversed x y) => .error ("range-endpoints of '" ++ String.ofList [x, '-', y] ++
              "' are in reverse collating sequence order")
          | .error (.unknownClass name) => .error ("invalid character class " ++ Quotation.always name)
        let result : Except String Exchange := do
          let first ← read (operands.headD "")
          let second ← (operands[1]?).mapM read
          exchangeOf a first second
        for s in operands do
          let slashes := s.toList.reverse.takeWhile (· = '\\')
          if slashes.length % 2 = 1 then
            complain "warning: an unescaped backslash at end of string is not portable"
        match result with
        | .error message =>
          complain message
          status 1
        | .ok e =>
          match ← openInput "-" with
          | .error why =>
            complain ("read error: " ++ why.text)
            status 1
          | .ok h =>
            match ← foldBlocks h (fun last block => do
              let (last, text) := e.apply last block
              print text
              return (last, true)) none with
            | .ok _ => return
            | .error why =>
              complain ("read error: " ++ why.text)
              status 1

end Exec

end Flowline.Shell
