import Flowline.Decimal.Shortest
import Flowline.Shell.Bytes

/-!
# Formatted output

The escapes and directives of `echo` and `printf`.
-/

namespace Flowline.Shell.Format

def isOctal (c : Char) : Bool := '0' ≤ c && c ≤ '7'

/-- The character that a letter after a backslash stands for. -/
def escape? (c : Char) : Option Char :=
  match c with
  | 'a' => some '\x07'
  | 'b' => some '\x08'
  | 'e' => some '\x1b'
  | 'f' => some '\x0c'
  | 'n' => some '\n'
  | 'r' => some '\r'
  | 't' => some '\t'
  | 'v' => some '\x0b'
  | '\\' => some '\\'
  | _ => none

/-- The character that up to three octal digits denote, and what follows them. -/
def octal (cs : List Char) : Char × List Char :=
  let digits := (cs.take 3).takeWhile isOctal
  let n := digits.foldl (fun n c => 8 * n + (c.toNat - '0'.toNat)) 0
  (Char.ofNat (n % 256), cs.drop digits.length)

/-- A text with its escapes resolved, and whether the escape that ends all output was met.  `fuel` bounds
the length. -/
def unescape : Nat → List Char → List Char × Bool
  | 0, _ => ([], false)
  | _, [] => ([], false)
  | fuel + 1, '\\' :: c :: cs =>
    if c = 'c' then ([], true)
    else if isOctal c then
      let digits := if c = '0' && cs.head?.any isOctal then cs else c :: cs
      let (d, rest) := octal digits
      let (out, stop) := unescape fuel rest
      (d :: out, stop)
    else
      match escape? c with
      | some d =>
        let (out, stop) := unescape fuel cs
        (d :: out, stop)
      | none =>
        let (out, stop) := unescape fuel (c :: cs)
        ('\\' :: out, stop)
  | fuel + 1, c :: cs =>
    let (out, stop) := unescape fuel cs
    (c :: out, stop)

/-- What `echo` writes: the words with blanks between them and their escapes resolved. -/
def echo (words : List String) : String :=
  let (newline, words) := match words with
    | "-n" :: rest => (false, rest)
    | words => (true, words)
  let text := (String.intercalate " " words).toList
  let (out, stop) := unescape (text.length + 1) text
  String.ofList out ++ if newline && ! stop then "\n" else ""

/-! ## Directives -/

structure Directive where
  left : Bool
  zero : Bool
  plus : Bool
  space : Bool
  alternate : Bool
  width : Nat
  precision : Option Nat
  letter : Char

/-- Pads a text to the width of a directive. -/
def Directive.pad (d : Directive) (s : String) : String :=
  let missing := d.width - s.length
  if d.left then s ++ String.ofList (List.replicate missing ' ')
  else String.ofList (List.replicate missing ' ') ++ s

def signText (d : Directive) (negative : Bool) : String :=
  if negative then "-" else if d.plus then "+" else if d.space then " " else ""

/-- A sign and digits, with zeros between them as far as the precision or the width asks for. -/
def Directive.padNumber (d : Directive) (sign digits : String) (zero : Bool) : String :=
  let least := match d.precision with
    | some n => if zero then digits.length else n
    | none => 0
  let filled := if d.zero && ! d.left && (zero || d.precision.isNone) then d.width - sign.length else least
  d.pad (sign ++ String.ofList (List.replicate (filled - digits.length) '0') ++ digits)

/-- The digits of a number to a base. -/
def digitsIn (base : Nat) (upper : Bool) (n : Nat) : String :=
  let cs := Nat.toDigits base n
  String.ofList (if upper then cs.map Char.toUpper else cs)

/-- The digits of a quotient with some places after the point, a half going to the even neighbour. -/
def fixed (num den places : Nat) : String :=
  let scaled := num * Nat.pow 10 places
  let q := scaled / den
  let r := scaled % den
  let q := if den < 2 * r || (2 * r = den && q % 2 = 1) then q + 1 else q
  let text := toString q
  if places = 0 then text
  else
    let text := String.ofList (List.replicate (places + 1 - text.length) '0') ++ text
    let cs := text.toList
    String.ofList (cs.take (cs.length - places)) ++ "." ++ String.ofList (cs.drop (cs.length - places))

/-- What is wrong with a number. -/
inductive NumberFault
  | notNumber
  | incomplete
  | outOfRange
  deriving DecidableEq

def NumberFault.message (s : String) : NumberFault → String
  | notNumber => s ++ ": expected numeric value"
  | incomplete => s ++ ": not completely converted"
  | outOfRange => s ++ ": Numerical result out of range"

/-- What is wrong with a text of which only a part is a number. -/
def faultOf (used whole : List Char) : Option NumberFault :=
  if used.length = whole.length then none else if used.isEmpty then some .notNumber else some .incomplete

/-- The value of a double without its sign. -/
inductive Magnitude
  | finite (num den : Nat)
  | infinite
  | notNumber

/-- The value of the double of `n · 10 ^ exponent`. -/
def Magnitude.ofDecimal (n : Nat) (exponent : Int) : Magnitude :=
  let x := if 0 ≤ exponent then Float.ofScientific n false exponent.toNat
    else Float.ofScientific n true (-exponent).toNat
  if x.isInf then .infinite
  else
    let b := Decimal.Binary.ofBits x.toBits.toNat
    if 0 ≤ b.exponent then .finite (b.mantissa * Nat.pow 2 b.exponent.toNat) 1
    else .finite b.mantissa (Nat.pow 2 (-b.exponent).toNat)

/-- The longest decimal at the start of some characters: its digits, its exponent and its length. -/
def decimal (cs : List Char) : Nat × Int × Nat :=
  let whole := cs.takeWhile Char.isDigit
  let rest := cs.drop whole.length
  let fraction := match rest with
    | '.' :: rest => rest.takeWhile Char.isDigit
    | _ => []
  if whole.isEmpty && fraction.isEmpty then (0, 0, 0)
  else
    let point := if rest.head? = some '.' then 1 + fraction.length else 0
    let (exponent, mark) := match rest.drop point with
      | e :: rest =>
        let sign := (rest.take 1).filter fun c => c = '+' || c = '-'
        let digits := (rest.drop sign.length).takeWhile Char.isDigit
        if (e = 'e' || e = 'E') && ! digits.isEmpty then
          ((integer? (String.ofList (sign ++ digits))).getD 0, 1 + sign.length + digits.length)
        else (0, 0)
      | [] => (0, 0)
    (Text.digitsValue (whole ++ fraction), exponent - fraction.length, whole.length + point + mark)

/-- The double that an argument denotes, with its sign, and what is wrong with it. -/
def real (s : String) : Bool × Magnitude × Option NumberFault :=
  let cs := s.toList.dropWhile isSpace
  let negative := cs.head? = some '-'
  let plain := Text.dropSign cs
  let word := String.ofList (plain.map Char.toLower)
  if word = "inf" || word = "infinity" then (negative, .infinite, none)
  else if word = "nan" then (negative, .notNumber, none)
  else
    let (n, exponent, length) := decimal plain
    let magnitude := Magnitude.ofDecimal n exponent
    let isFar := match magnitude with
      | .finite num _ => num = 0 && n ≠ 0
      | _ => true
    (negative, magnitude, match faultOf (plain.take length) plain with
      | some fault => some fault
      | none => if isFar then some .outOfRange else none)

/-- The sign and the exact value that a decimal text denotes. -/
def fraction? (s : String) : Option (Bool × Nat × Nat) :=
  let cs := Text.dropSign s.toList
  let (n, exponent, length) := decimal cs
  if length = 0 || length ≠ cs.length then none
  else if 0 ≤ exponent then some (s.toList.head? = some '-', n * Nat.pow 10 exponent.toNat, 1)
  else some (s.toList.head? = some '-', n, Nat.pow 10 (-exponent).toNat)

/-- The number that an argument denotes, and what is wrong with it; it is kept between two bounds. -/
def number (least most : Int) (s : String) : Int × Option NumberFault :=
  match s.toList with
  | '\'' :: rest => (((rest.head?.map Char.toNat).getD 0 : Nat), none)
  | '"' :: rest => (((rest.head?.map Char.toNat).getD 0 : Nat), none)
  | cs =>
    let cs := cs.dropWhile isSpace
    let negative := cs.head? = some '-'
    let plain := Text.dropSign cs
    let (base, digits) := match plain with
      | '0' :: 'x' :: rest => (16, rest)
      | '0' :: 'X' :: rest => (16, rest)
      | '0' :: rest => (8, '0' :: rest)
      | digits => (10, digits)
    let isDigit (c : Char) : Bool := match Text.hexValue? c with
      | some n => n < base
      | none => false
    let used := digits.takeWhile isDigit
    let size := used.foldl (fun n c => base * n + (Text.hexValue? c).getD 0) 0
    let n : Int := if negative then - size else size
    let kept := max least (min most n)
    (kept, match faultOf used digits with
      | some fault => some fault
      | none => if kept = n then none else some .outOfRange)

/-- A number as an unsigned word. -/
def word (n : Int) : Nat := (n % UInt64.size).toNat

/-- The exponent of a quotient rounded to so many places after its first digit, and its digits. -/
def scientificDigits (num den places : Nat) : Int × String :=
  if num = 0 then (0, String.ofList (List.replicate (places + 1) '0'))
  else
    let guess : Int := (toString num).length - (toString den).length
    let below := if 0 ≤ guess then num < den * Nat.pow 10 guess.toNat
      else num * Nat.pow 10 (-guess).toNat < den
    let exponent := if below then guess - 1 else guess
    let shift := places - exponent
    let text := if 0 ≤ shift then fixed (num * Nat.pow 10 shift.toNat) den 0
      else fixed num (den * Nat.pow 10 (-shift).toNat) 0
    if places + 1 < text.length then (exponent + 1, String.ofList (text.toList.take (places + 1)))
    else (exponent, text)

/-- A digit, a point and further digits, and an exponent. -/
def scientific (upper : Bool) (exponent : Int) (digits : List Char) : String :=
  let point := if digits.length = 1 then "" else "."
  let power := toString exponent.natAbs
  String.ofList (digits.take 1) ++ point ++ String.ofList (digits.drop 1) ++ (if upper then "E" else "e") ++
    (if exponent < 0 then "-" else "+") ++ (if power.length = 1 then "0" else "") ++ power

/-- A decimal without zeros at its end. -/
def dropZeros (digits : List Char) : List Char :=
  let cs := (digits.reverse.dropWhile (· = '0')).reverse
  if cs.getLast? = some '.' then cs.dropLast else cs

/-- The shorter way to write a quotient, to so many digits. -/
def general (upper keepZeros : Bool) (num den places : Nat) : String :=
  let precision := max places 1
  let (exponent, digits) := scientificDigits num den (precision - 1)
  if exponent < -4 || (precision : Int) ≤ exponent then
    let digits := digits.toList
    let shown := if keepZeros then digits else digits.take 1 ++ dropZeros (digits.drop 1)
    scientific upper exponent shown
  else
    let text := fixed num den (precision - 1 - exponent).toNat
    if keepZeros || ! text.toList.contains '.' then text else String.ofList (dropZeros text.toList)

/-- A quotient that a double holds in hexadecimal digits, to so many places or to as many as there are. -/
def hexadecimal (num den : Nat) (places : Option Nat) : String :=
  let guess : Int := (Nat.log2 num : Int) - Nat.log2 den
  let scale (e : Int) : Nat :=
    let shift := 52 - e
    if 0 ≤ shift then num * Nat.pow 2 shift.toNat / den else num / (den * Nat.pow 2 (-shift).toNat)
  let exponent : Int := if num = 0 then 0 else max (if scale guess < Nat.pow 2 52 then guess - 1 else guess) (-1022)
  let all := if num = 0 then 0 else scale exponent
  let kept := min (places.getD 13) 13
  let cut := Nat.pow 16 (13 - kept)
  let rounded := all / cut + if cut < 2 * (all % cut) || (2 * (all % cut) = cut && all / cut % 2 = 1) then 1 else 0
  let lead := rounded / Nat.pow 16 kept
  let digits := Nat.toDigits 16 (rounded % Nat.pow 16 kept)
  let digits := if kept = 0 then [] else List.replicate (kept - digits.length) '0' ++ digits
  let digits := match places with
    | some n => digits ++ List.replicate (n - kept) '0'
    | none => (digits.reverse.dropWhile (· = '0')).reverse
  "0x" ++ toString lead ++ (if digits.isEmpty then "" else "." ++ String.ofList digits) ++ "p" ++
    (if exponent < 0 then "-" else "+") ++ toString exponent.natAbs

/-- The text of a directive with its argument, and what is wrong with the argument. -/
def Directive.render (d : Directive) (arg : String) : String × Option NumberFault :=
  let unsigned (base : Nat) (upper : Bool) (mark : String) : String × Option NumberFault :=
    let (n, fault) := number (-(UInt64.size - 1)) (UInt64.size - 1) arg
    let mark := if d.alternate && n != 0 then mark else ""
    (d.padNumber mark (digitsIn base upper (word n)) false, fault)
  let capital (upper : Bool) (s : String) : String :=
    if upper then String.ofList (s.toList.map Char.toUpper) else s
  let floating (upper : Bool) (f : Nat → Nat → Nat → String) : String × Option NumberFault :=
    let (negative, magnitude, fault) := real arg
    (match magnitude with
      | .finite num den =>
        d.padNumber (signText d negative) (capital upper (f num den (d.precision.getD 6))) true
      | .infinite => d.pad (signText d negative ++ capital upper "inf")
      | .notNumber => d.pad (signText d negative ++ capital upper "nan"), fault)
  let cut (s : String) : String := match d.precision with
    | some n => String.ofList (s.toList.take n)
    | none => s
  let withPoint (places : Nat) (s : String) : String := if d.alternate && places = 0 then s ++ "." else s
  let byExponent (num den places : Nat) : String :=
    let (exponent, digits) := scientificDigits num den places
    scientific false exponent digits.toList
  match d.letter with
  | 's' => (d.pad (cut arg), none)
  | 'c' => (d.pad (String.ofList [arg.toList.headD '\x00']), none)
  | 'b' => (d.pad (cut (String.ofList (unescape (arg.length + 1) arg.toList).1)), none)
  | 'd' | 'i' =>
    let (n, fault) := number (-(UInt64.size / 2)) (UInt64.size / 2 - 1) arg
    (d.padNumber (signText d (n < 0)) (toString n.natAbs) false, fault)
  | 'u' => unsigned 10 false ""
  | 'o' => unsigned 8 false "0"
  | 'x' => unsigned 16 false "0x"
  | 'X' => unsigned 16 true "0X"
  | 'f' | 'F' => floating (d.letter = 'F') fun num den places => withPoint places (fixed num den places)
  | 'e' | 'E' => floating (d.letter = 'E') byExponent
  | 'a' | 'A' => floating (d.letter = 'A') fun num den _ => hexadecimal num den d.precision
  | _ => floating (d.letter = 'G') (general false d.alternate)

/-- The letters that end a directive. -/
def letters : List Char := "scbdiuoxXaAfFeEgG".toList

/-- Whether an argument ends all output. -/
def Directive.stops (d : Directive) (arg : String) : Bool :=
  d.letter = 'b' && (unescape (arg.length + 1) arg.toList).2

/-- A count in a directive, or a star for the next argument. -/
def count (cs : List Char) (args : List String) : Int × List Char × List String :=
  match cs with
  | '*' :: rest => ((number (-0x80000000) 0x7fffffff (args.headD "0")).1, rest, args.drop 1)
  | cs =>
    let digits := cs.takeWhile Char.isDigit
    (Text.digitsValue digits, cs.drop digits.length, args)

/-- The directive after a percent sign, if it has a letter, with what follows and the arguments that are
left. -/
def directive (cs : List Char) (args : List String) : Option (Directive × List Char × List String) :=
  let flags := cs.takeWhile fun c => "-0+ #".toList.contains c
  let (width, cs, args) := count (cs.drop flags.length) args
  let (precision, cs, args) : Option Int × List Char × List String := match cs with
    | '.' :: rest =>
      let (n, cs, args) := count rest args
      (some n, cs, args)
    | cs => (none, cs, args)
  match cs with
  | [] => none
  | letter :: rest =>
    some (⟨flags.contains '-' || width < 0, flags.contains '0', flags.contains '+', flags.contains ' ',
      flags.contains '#', width.natAbs, (precision.filter (0 ≤ ·)).map Int.toNat, letter⟩, rest, args)

/-- What is wrong with a format; the directive is given as it stands there. -/
inductive Fault
  /-- The format ends before the letter. -/
  | noLetter (shown : String)
  | unknownLetter (shown : String)

/-- An argument that is not what was asked for, and how much had been written before. -/
structure Mistake where
  arg : String
  fault : NumberFault
  place : Nat

/-- What has been written, what was wrong with arguments, and whether output has ended. -/
structure Printed where
  text : String
  wrong : List Mistake
  /-- What is wrong with the format, so that nothing follows. -/
  invalid : Option Fault
  stop : Bool
  /-- The arguments that the format does not ask for. -/
  unused : List String

/-- The character that an escape stands for which only some formats know, and what follows. -/
def rareEscape? : List Char → Option (Char × List Char)
  | '"' :: cs => some ('"', cs)
  | 'x' :: cs =>
    let digits := (cs.take 2).takeWhile fun c => (Text.hexValue? c).isSome
    if digits.isEmpty then none
    else some (Char.ofNat (digits.foldl (fun n c => 16 * n + (Text.hexValue? c).getD 0) 0), cs.drop digits.length)
  | _ => none

/-- A directive without the letters in front of its own that tell the size of a number. -/
def dropSizes : List Char → List Char
  | c :: cs => if "hlLjzt".toList.contains c then dropSizes cs else c :: cs
  | [] => []

/-- The part of a directive before its letter and before what tells the size of a number. -/
def directiveStart (cs : List Char) : List Char := cs.takeWhile fun c => "-+ #0*.'123456789".toList.contains c

/-- One pass over a format; the arguments left over.  A `wide` format knows more escapes. -/
def pass (wide : Bool) : Nat → List Char → List String → Printed → Printed × List String
  | 0, _, args, p => (p, args)
  | _, [], args, p => (p, args)
  | fuel + 1, '%' :: '%' :: cs, args, p => pass wide fuel cs args { p with text := p.text.push '%' }
  | fuel + 1, '%' :: whole, args, p =>
    let start := directiveStart whole
    let cs := if wide then start ++ dropSizes (whole.drop start.length) else whole
    let shown (rest : List Char) := String.ofList ('%' :: whole.take (whole.length - rest.length))
    match directive cs args with
    | none => ({ p with invalid := some (.noLetter (shown [])), stop := true }, [])
    | some (d, rest, args) =>
      if ! letters.contains d.letter then
        ({ p with invalid := some (.unknownLetter (shown rest)), stop := true }, [])
      else
        let arg := args.headD ""
        let (text, fault) := d.render arg
        let stop := d.stops arg
        let p := { p with
          text := p.text ++ text
          wrong := p.wrong ++ fault.toList.map (⟨arg, ·, p.text.length⟩)
          stop }
        if stop then (p, []) else pass wide fuel rest (args.drop 1) p
  | fuel + 1, '\\' :: c :: cs, args, p =>
    if isOctal c then
      let (d, rest) := octal (c :: cs)
      pass wide fuel rest args { p with text := p.text.push d }
    else if wide && c = 'c' then ({ p with stop := true }, [])
    else
      match escape? c, if wide then rareEscape? (c :: cs) else none with
      | some d, _ => pass wide fuel cs args { p with text := p.text.push d }
      | none, some (d, rest) => pass wide fuel rest args { p with text := p.text.push d }
      | none, none => pass wide fuel (c :: cs) args { p with text := p.text.push '\\' }
  | fuel + 1, c :: cs, args, p => pass wide fuel cs args { p with text := p.text.push c }

/-- Passes over a format until every argument is used. -/
def passes (wide : Bool) (format : List Char) : Nat → List String → Printed → Printed
  | 0, _, p => p
  | fuel + 1, args, p =>
    let (p, left) := pass wide (format.length + 1) format args p
    if left.isEmpty then p
    else if left.length = args.length then { p with unused := left }
    else passes wide format fuel left p

/-- What `printf` writes. -/
def printf (wide : Bool) (format : String) (args : List String) : Printed :=
  passes wide format.toList (args.length + 1) args ⟨"", [], none, false, []⟩

end Flowline.Shell.Format
