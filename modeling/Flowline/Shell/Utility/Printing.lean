import Flowline.Shell.Calculation
import Flowline.Shell.Format
import Flowline.Shell.Test
import Flowline.Shell.Utility.Input

/-!
# Words on the standard output

Programs that write what they are told, what comes of it, or whether it holds: `echo`, `printf`, `expr`,
`factor` and `test`.
-/

namespace Flowline.Shell

/-- A text with the escapes resolved that the `echo` program knows. -/
def unescapeWide : Nat → List Char → List Char × Bool
  | 0, _ => ([], false)
  | _, [] => ([], false)
  | fuel + 1, '\\' :: c :: cs =>
    if c = 'c' then ([], true)
    else
      let (out, rest) := match c, Format.escape? c, Format.rareEscape? (c :: cs) with
        | '0', _, _ =>
          let (d, rest) := Format.octal cs
          ([d], rest)
        | _, some d, _ => ([d], cs)
        | '"', _, _ => (['\\'], c :: cs)
        | _, none, some (d, rest) => ([d], rest)
        | _, none, none => (['\\'], c :: cs)
      let (more, stop) := unescapeWide fuel rest
      (out ++ more, stop)
  | fuel + 1, c :: cs =>
    let (more, stop) := unescapeWide fuel cs
    (c :: more, stop)

/-- The number of `n` in prime factors, the least first; `d` and `step` say which divisors come next. -/
def primeFactors : Nat → Nat → Nat → List Nat
  | 0, _, n => [n]
  | fuel + 1, d, n =>
    if n < 2 then []
    else if n < d * d then [n]
    else if n % d = 0 then d :: primeFactors fuel d (n / d)
    else primeFactors fuel (if d = 2 then 3 else d + 2) n

namespace Exec

def echoProgram (args : List String) : Exec Unit := do
  let isOption (a : String) : Bool := match a.toList with
    | '-' :: cs => ! cs.isEmpty && cs.all fun c => c = 'n' || c = 'e' || c = 'E'
    | _ => false
  let options := args.takeWhile isOption
  let letters := options.flatMap String.toList
  let text := (String.intercalate " " (args.drop options.length)).toList
  let escapes := (letters.reverse.find? fun c => c = 'e' || c = 'E') = some 'e'
  let (out, stop) := if escapes then unescapeWide (text.length + 1) text else (text, false)
  print (String.ofList out ++ if letters.contains 'n' || stop then "" else "\n")
  status 0

/-- The message for an argument that is not the number that is asked for. -/
def numberMessage (arg : String) : Format.NumberFault → String
  | .notNumber => Quotation.always arg ++ ": expected a numeric value"
  | .incomplete => Quotation.always arg ++ ": value not completely converted"
  | .outOfRange => Quotation.always arg ++ ": Numerical result out of range"

def printfProgram (args : List String) : Exec Unit := do
  match if args.head? = some "--" then args.drop 1 else args with
  | [] => misuse "missing operand" 1
  | format :: args =>
    let p := Format.printf true format args
    let (rest, _) ← p.wrong.foldlM (fun (cs, done) m => do
      print (String.ofList (cs.take (m.place - done)))
      complain (numberMessage m.arg m.fault)
      return (cs.drop (m.place - done), m.place)) (p.text.toList, 0)
    print (String.ofList rest)
    match p.invalid with
    | some (.noLetter shown) => complain (shown ++ ": invalid conversion specification")
    | some (.unknownLetter shown) => complain (shown ++ ": invalid conversion specification")
    | none => pure ()
    match p.unused with
    | arg :: _ => complain ("warning: ignoring excess arguments, starting with " ++ Quotation.always arg)
    | [] => pure ()
    status (if p.invalid.isSome || ! p.wrong.isEmpty then 1 else 0)

def expr (args : List String) : Exec Unit := do
  let args := if args.head? = some "--" then args.drop 1 else args
  if args.isEmpty then misuse "missing operand" 2
  else
    match Calculation.eval args with
    | .ok value =>
      print (value ++ "\n")
      status (if Calculation.isNull value then 1 else 0)
    | .error fault =>
      complain (fault.message Quotation.always)
      status 2

def factor (args : List String) : Exec Unit :=
  withArguments { letters := "h" } 1 args fun a => do
    let texts ← if a.operands.isEmpty then do
        match ← readAll 0 with
        | .ok text => pure ((Text.split '\n' text).flatMap (Text.split ' ') |>.filter (· ≠ ""))
        | .error e =>
          interject ("read error: " ++ e.text)
          failWith 1
          pure []
      else pure a.operands
    for text in texts do
      match integer? text with
      | some n =>
        if 0 ≤ n && (text.toList.head?.any fun c => c.isDigit || c = '+') then
          let fs := primeFactors 0x100000 2 n.toNat
          print (toString n ++ ":" ++ String.join (fs.map fun f => " " ++ toString f) ++ "\n")
        else
          interject (Quotation.always text ++ " is not a valid positive integer")
          failWith 1
      | none =>
        interject (Quotation.always text ++ " is not a valid positive integer")
        failWith 1

/-- The message for a condition that makes no sense. -/
def conditionMessage (args : List String) : Test.Fault → String
  | .illegalNumber text => "invalid integer " ++ Quotation.always text
  | .missingParenthesis => "')' expected"
  | .argumentExpected operator => "missing argument after " ++ Quotation.always operator
  | .tooDeep => "expression too deep"
  | .unexpectedOperator _ =>
    match args with
    | [a, b] => if a.toList.head? = some '-' && a.length = 2 then Quotation.always a ++ ": unary operator expected"
        else "missing argument after " ++ Quotation.always b
    | [_, op, _] => Quotation.always op ++ ": binary operator expected"
    | _ => "extra argument " ++ Quotation.always (args.getLast?.getD "")

def testProgram (args : List String) : Exec Unit := do
  let p ← get
  match Test.holds ⟨← files, p.directory, p.handle?⟩ args with
  | .ok b => status (if b then 0 else 1)
  | .error fault =>
    complain (conditionMessage args fault)
    status 2

def bracketProgram (args : List String) : Exec Unit := do
  if args.getLast? ≠ some "]" then
    complain "missing ']'"
    status 2
  else testProgram args.dropLast

end Exec

end Flowline.Shell
