import Flowline.Shell.Bytes

/-!
# Counts and lengths of time

Amounts as utilities are given them: digits with a unit behind them.
-/

namespace Flowline.Shell.Count

inductive Fault
  | invalid
  | tooLarge

/-- The text of a fault, after the argument in quotes. -/
def Fault.text : Fault → String
  | invalid => ""
  | tooLarge => ": Value too large for defined data type"

/-- The factor that a unit stands for. -/
def unit? (s : String) : Option Nat :=
  match s.toList with
  | [] => some 1
  | ['b'] => some 512
  | c :: rest =>
    match "KMGTPEZY".toList.findIdx? (· = c.toUpper) with
    | none => none
    | some n =>
      match rest with
      | [] => some (Nat.pow 1024 (n + 1))
      | ['B'] => some (Nat.pow 1000 (n + 1))
      | ['i', 'B'] => some (Nat.pow 1024 (n + 1))
      | _ => none

/-- The amount that a text without a sign denotes. -/
def parse (s : String) : Except Fault Nat :=
  let digits := s.toList.takeWhile Char.isDigit
  match unit? (String.ofList (s.toList.drop digits.length)) with
  | some factor =>
    if digits.isEmpty then .error .invalid
    else
      let n := Text.digitsValue digits * factor
      if n < UInt64.size then .ok n else .error .tooLarge
  | none => .error .invalid

/-- A whole number that is at least 1. -/
def positive? (s : String) : Option Nat :=
  let cs := if s.toList.head? = some '+' then s.toList.drop 1 else s.toList
  if cs.isEmpty || ! cs.all Char.isDigit then none
  else
    let n := Text.digitsValue cs
    if n = 0 then none else some n

end Flowline.Shell.Count
