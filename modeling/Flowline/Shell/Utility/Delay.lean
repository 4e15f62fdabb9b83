import Flowline.Shell.Format
import Flowline.Shell.Utility.Arguments

/-!
# Delays

Lengths of time as utilities are given them, and waiting for one.
-/

namespace Flowline.Shell

/-- The milliseconds that a text such as `1.5m` denotes; a time that is never over is a very long one. -/
def duration? (text : String) : Option Nat := do
  let cs := text.toList.dropWhile isSpace
  let (unit, digits) := match cs.getLast? with
    | some 's' => (1000, cs.dropLast)
    | some 'm' => (60000, cs.dropLast)
    | some 'h' => (3600000, cs.dropLast)
    | some 'd' => (86400000, cs.dropLast)
    | _ => (1000, cs)
  let word := String.ofList ((if digits.head? = some '+' then digits.drop 1 else digits).map Char.toLower)
  if word = "infinity" || word = "inf" then return UInt64.size
  if let '0' :: x :: hex := digits then
    if (x = 'x' || x = 'X') && ! hex.isEmpty && hex.all fun c => (Text.hexValue? c).isSome then
      return unit * hex.foldl (fun n c => 16 * n + (Text.hexValue? c).getD 0) 0
  let (negative, num, den) ← Format.fraction? (String.ofList digits)
  if negative && num ≠ 0 then none else return (num * unit + den - 1) / den

def Exec.sleep (args : List String) : Exec Unit :=
  withArguments { letters := "" } 1 args fun a => do
    if a.operands.isEmpty then misuse "missing operand" 1
    else
      let wrong := a.operands.filter fun o => (duration? o).isNone
      for o in wrong do complain ("invalid time interval " ++ Quotation.always o)
      if wrong.isEmpty then
        waitUntil ((← world).now + (a.operands.filterMap duration?).foldl (· + ·) 0) false
      else
        offerHelp
        status 1

end Flowline.Shell
