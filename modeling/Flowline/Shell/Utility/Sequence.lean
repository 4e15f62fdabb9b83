import Flowline.Shell.Format
import Flowline.Shell.Utility.Input

/-!
# Sequences

`seq` and `yes`: numbers in steps, and one line again and again.  They write as fast as they are read.
-/

namespace Flowline.Shell

namespace Sequence

/-- A decimal as it was written. -/
structure Decimal where
  negative : Bool
  digits : Nat
  /-- The digits after the point. -/
  places : Nat
  /-- The characters that it takes when it is written out. -/
  width : Nat

namespace Decimal

/-- The decimal times a power of ten that makes it whole. -/
def scaled (d : Decimal) (places : Nat) : Int :=
  let n : Int := d.digits * Nat.pow 10 (places - d.places)
  if d.negative then - n else n

def ofNat (n : Nat) : Decimal := ⟨false, n, 0, (toString n).length⟩

/-- The decimal that a text denotes. -/
def parse? (text : String) : Option Decimal :=
  let cs := text.toList.dropWhile isSpace
  let negative := cs.head? = some '-'
  let digits := Text.dropSign cs
  let sign := if negative then 1 else 0
  match digits with
  | '0' :: x :: hex =>
    if (x = 'x' || x = 'X') && ! hex.isEmpty && hex.all fun c => (Text.hexValue? c).isSome then
      let n := hex.foldl (fun n c => 16 * n + (Text.hexValue? c).getD 0) 0
      some ⟨negative, n, 0, sign + (toString n).length⟩
    else plain negative sign digits
  | _ => plain negative sign digits
where
  plain (negative : Bool) (sign : Nat) (cs : List Char) : Option Decimal :=
    let (n, exponent, length) := Format.decimal cs
    if length = 0 || length ≠ cs.length then none
    else if 0 ≤ exponent then
      let n := n * Nat.pow 10 exponent.toNat
      some ⟨negative, n, 0, sign + (if cs.all Char.isDigit then cs.length else (toString n).length)⟩
    else
      let isPlain := cs.all fun c => c.isDigit || c = '.'
      let width := if isPlain then cs.length else (toString n).length + 1
      let width := if cs.head? = some '.' then width + 1 else width
      some ⟨negative, n, (-exponent).toNat, sign + width⟩

end Decimal

/-- An end of a sequence, or its step. -/
inductive Bound
  | decimal (d : Decimal)
  | infinite (negative : Bool)

/-- Why a text is no bound. -/
inductive BoundFault
  | malformed
  | notNumber

def BoundFault.message (text : String) : BoundFault → String
  | malformed => "invalid floating point argument: " ++ Quotation.always text
  | notNumber => "invalid " ++ Quotation.always "not-a-number" ++ " argument: " ++ Quotation.always text

/-- The bound that a text denotes. -/
def Bound.parse (text : String) : Except BoundFault Bound :=
  let word := String.ofList ((Text.dropSign (text.toList.dropWhile isSpace)).map Char.toLower)
  if word = "inf" || word = "infinity" then .ok (.infinite (text.toList.head? = some '-'))
  else if word = "nan" then .error .notNumber
  else match Decimal.parse? text with
    | some d => .ok (.decimal d)
    | none => .error .malformed

/-- A number of ten-to-the-`places` parts, written with as many places and filled with zeros to a width. -/
def write (places width : Nat) (n : Int) : String :=
  let digits := Format.fixed n.natAbs (Nat.pow 10 places) places
  let sign := if n < 0 then "-" else ""
  sign ++ String.ofList (List.replicate (width - sign.length - digits.length) '0') ++ digits

/-- How a format is to be read, and what is wrong with it. -/
inductive FormatFault
  | noDirective
  | unknown (letter : String)
  | endsInPercent
  | tooMany

def FormatFault.message (format : String) : FormatFault → String
  | noDirective => "format " ++ Quotation.always format ++ " has no % directive"
  | unknown letter => "format " ++ Quotation.always format ++ " has unknown %" ++ letter ++ " directive"
  | endsInPercent => "format " ++ Quotation.always format ++ " ends in %"
  | tooMany => "format " ++ Quotation.always format ++ " has too many % directives"

/-- Whether a format has one directive that a number can go through. -/
def checkFormat : Bool → List Char → Option FormatFault
  | seen, [] => if seen then none else some .noDirective
  | seen, '%' :: '%' :: cs => checkFormat seen cs
  | seen, '%' :: cs =>
    if seen then some .tooMany
    else
      match cs.dropWhile fun c => "-+#0 '.123456789".toList.contains c with
      | [] => some .endsInPercent
      | 'L' :: c :: _ => if "efgaEFGA".toList.contains c then checkRest cs else some (.unknown (String.ofList [c]))
      | c :: _ => if "efgaEFGA".toList.contains c then checkRest cs else some (.unknown (String.ofList [c]))
  | seen, _ :: cs => checkFormat seen cs
where
  checkRest : List Char → Option FormatFault
    | [] => none
    | '%' :: '%' :: cs => checkRest cs
    | '%' :: _ => some .tooMany
    | _ :: cs => checkRest cs

end Sequence

namespace Exec

open Sequence

/-- Writes the numbers from `n` on, many at once; each is preceded by the separator but the first. -/
def countFrom (shown : Int → String) (separator : String) (step : Int) (last? : Option Int) :
    Nat → Bool → Int → Exec Unit
  | 0, _, _ => return
  | fuel + 1, isFirst, n => do
    let isOver (n : Int) : Bool := last?.any fun last => if 0 < step then last < n else n < last
    let part := ((List.range 100).map fun (i : Nat) => n + i * step).takeWhile (! isOver ·)
    if part.isEmpty then
      if ! isFirst then print "\n"
    else
      work 1
      print ((if isFirst then "" else separator) ++ String.intercalate separator (part.map shown))
      if (← get).writeError.isNone then countFrom shown separator step last? fuel false (n + 100 * step)

def seq (args : List String) : Exec Unit := do
  let names := [("format", 'f'), ("separator", 's'), ("equal-width", 'w')]
  let isNumber (a : String) : Bool := match a.toList with
    | '-' :: c :: _ => c = '.' || c.isDigit
    | _ => false
  let before := args.takeWhile (! isNumber ·)
  withArguments { letters := "f:s:w", names, inFront := true } 1 before fun a => do
    let operands := a.operands ++ args.drop before.length
    let separator := (a.get? 's').getD "\n"
    if operands.isEmpty then misuse "missing operand" 1
    else if 3 < operands.length then misuse ("extra operand " ++ Quotation.always (operands[3]?.getD "")) 1
    else
      match (a.get? 'f').bind fun f => (checkFormat false f.toList).map (·.message f) with
      | some message =>
        complain message
        status 1
      | none =>
        match operands.mapM fun o => (Bound.parse o).mapError (·.message o) with
        | .error message => misuse message 1
        | .ok bounds =>
          let one := Decimal.ofNat 1
          let (first, step, last) := match bounds with
            | [last] => (Bound.decimal one, Bound.decimal one, last)
            | [first, last] => (first, .decimal one, last)
            | [first, step, last] => (first, step, last)
            | _ => (.decimal one, .decimal one, .decimal one)
          match first, step with
          | .decimal first, .decimal step =>
            if step.digits = 0 then
              misuse ("invalid Zero increment value: " ++ Quotation.always (operands[1]?.getD "")) 1
            else
              let lastPlaces := match last with
                | .decimal d => d.places
                | .infinite _ => 0
              let places := max first.places step.places
              let common := max places lastPlaces
              let full (d : Decimal) : Nat := d.width - d.places + places +
                (if d.places = 0 && 0 < places then 1 else 0) - (if 0 < d.places && places = 0 then 1 else 0)
              let width := if a.has 'w' then
                  match last with
                  | .decimal d => max (full first) (full d)
                  | .infinite _ => full first
                else 0
              let shrink := Nat.pow 10 (common - places)
              let shown (n : Int) : String := match a.get? 'f' with
                | some f => (Format.printf true f [write common 0 n]).text
                | none => write places width (n / (shrink : Int))
              let last? := match last with
                | .decimal d => some (d.scaled common)
                | .infinite negative => if negative = step.negative then none
                  else some (if step.negative then first.scaled common + 1 else first.scaled common - 1)
              countFrom shown separator (step.scaled common) last? manyBlocks true (first.scaled common)
          | _, _ => return

/-- Writes some text again and again. -/
def repeatText (text : String) : Nat → Exec Unit
  | 0 => return
  | fuel + 1 => do
    match ← writeFd 1 text with
    | .ok () => repeatText text fuel
    | .error e =>
      complain ("standard output: " ++ e.text)
      status 1

def yes (args : List String) : Exec Unit :=
  withArguments { letters := "", inFront := true } 1 args fun a => do
    let line := (if a.operands.isEmpty then "y" else String.intercalate " " a.operands) ++ "\n"
    repeatText (String.join (List.replicate (max 1 (8192 / line.length)) line)) manyBlocks

end Exec

end Flowline.Shell
