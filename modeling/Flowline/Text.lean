/-!
# Text

White space, trimming, cutting and replacing on Unicode text, and the numbers that text may spell.
Every function is one on lists of characters with a version on strings beside it.
-/

namespace Flowline.Text

/-- The Unicode property `White_Space`. -/
def isBlank (c : Char) : Bool :=
  let n := c.toNat
  (0x09 ≤ n && n ≤ 0x0D) || n == 0x20 || n == 0x85 || n == 0xA0 || n == 0x1680 ||
    (0x2000 ≤ n && n ≤ 0x200A) || n == 0x2028 || n == 0x2029 || n == 0x202F || n == 0x205F ||
    n == 0x3000

/-! ## Trimming -/

/-- The characters without the blanks at either end. -/
def trimChars (cs : List Char) : List Char :=
  ((cs.dropWhile isBlank).reverse.dropWhile isBlank).reverse

/-- The text without the blanks at either end. -/
def trim (s : String) : String := String.ofList (trimChars s.toList)

/-- Nothing but blanks. -/
def isAllBlank (s : String) : Bool := s.toList.all isBlank

/-! ## Cutting -/

/-- The stretches between the characters that satisfy `p`, empty ones included. -/
def pieces (p : Char → Bool) : List Char → List (List Char)
  | [] => [[]]
  | c :: cs =>
    if p c then [] :: pieces p cs
    else match pieces p cs with
      | [] => [[c]]
      | w :: ws => (c :: w) :: ws

/-- The parts of a text between the occurrences of a separator. -/
def split (separator : Char) (s : String) : List String :=
  (pieces (· == separator) s.toList).map String.ofList

/-- The longest stretches without a blank. -/
def words (s : String) : List String :=
  ((pieces isBlank s.toList).filter (! ·.isEmpty)).map String.ofList

/-- The part of a text before the first occurrence of `stop`, all of it if there is none. -/
def before (stop : Char) (s : String) : String :=
  String.ofList (s.toList.takeWhile (· != stop))

/-! ## Replacing -/

/-- `replaceChars pattern new skip cs` writes `new` for every occurrence of the non-empty `pattern`,
leftmost first and without overlap; the first `skip` characters belong to an occurrence already
replaced. -/
def replaceChars (pattern new : List Char) : Nat → List Char → List Char
  | _, [] => []
  | skip + 1, _ :: cs => replaceChars pattern new skip cs
  | 0, c :: cs =>
    if pattern.isPrefixOf (c :: cs) then
      new ++ replaceChars pattern new (pattern.length - 1) cs
    else c :: replaceChars pattern new 0 cs

/-- `s` with `new` in place of every occurrence of the non-empty `pattern`. -/
def replace (s pattern new : String) : String :=
  String.ofList (replaceChars pattern.toList new.toList 0 s.toList)

/-- Line feeds and carriage returns become spaces. -/
def flatten (s : String) : String :=
  String.ofList (s.toList.map fun c => if c == '\n' || c == '\r' then ' ' else c)

/-! ## Places in other texts -/

/-- The characters after ` at line L column C`, if that comes first; the numbers may be left out. -/
def afterPosition? (cs : List Char) : Option (List Char) :=
  let atLine := " at line ".toList
  let column := " column ".toList
  let rest := (cs.drop atLine.length).dropWhile Char.isDigit
  if atLine.isPrefixOf cs && column.isPrefixOf rest then
    some ((rest.drop column.length).dropWhile Char.isDigit)
  else none

/-- The characters without any ` at line L column C`; the first `skip` of them belong to one. -/
def dropPositionChars : Nat → List Char → List Char
  | _, [] => []
  | skip + 1, _ :: cs => dropPositionChars skip cs
  | 0, c :: cs =>
    match afterPosition? (c :: cs) with
    | some rest => dropPositionChars (cs.length - rest.length) cs
    | none => c :: dropPositionChars 0 cs

/-- The text without any ` at line L column C`. -/
def dropPositions (s : String) : String := String.ofList (dropPositionChars 0 s.toList)

/-! ## Letters and digits -/

def isLetterOrDigit (c : Char) : Bool := c.isAlpha || c.isDigit

def isHexDigit (c : Char) : Bool :=
  c.isDigit || ('a' ≤ c && c ≤ 'f') || ('A' ≤ c && c ≤ 'F')

/-- The value of a hexadecimal digit. -/
def hexValue? (c : Char) : Option Nat :=
  if c.isDigit then some (c.toNat - '0'.toNat)
  else if 'a' ≤ c && c ≤ 'f' then some (c.toNat - 'a'.toNat + 10)
  else if 'A' ≤ c && c ≤ 'F' then some (c.toNat - 'A'.toNat + 10)
  else none

/-! ## Numbers -/

/-- The number that a list of decimal digits writes. -/
def digitsValue (cs : List Char) : Nat :=
  cs.foldl (fun n c => 10 * n + (c.toNat - '0'.toNat)) 0

/-- The largest 64-bit natural number. -/
def maxWord : Nat := UInt64.size - 1

/-- The largest 32-bit natural number. -/
def maxHalfWord : Nat := UInt32.size - 1

/-- One plus sign in front is allowed. -/
def dropPlus : List Char → List Char
  | '+' :: cs => cs
  | cs => cs

/-- The natural number, up to the largest that is allowed, that a text spells: an optional plus sign and
decimal digits. -/
def naturalUpTo? (largest : Nat) (s : String) : Option Nat :=
  let digits := dropPlus s.toList
  if digits.isEmpty || ! digits.all Char.isDigit then none
  else
    let n := digitsValue digits
    if n ≤ largest then some n else none

/-- The 64-bit natural number that a text spells. -/
def natural? (s : String) : Option Nat := naturalUpTo? maxWord s

def dropSign : List Char → List Char
  | '+' :: cs => cs
  | '-' :: cs => cs
  | cs => cs

/-- Nothing, or an exponent mark with an optional sign and at least one digit. -/
def isExponent : List Char → Bool
  | [] => true
  | c :: cs => (c == 'e' || c == 'E') && ! (dropSign cs).isEmpty && (dropSign cs).all Char.isDigit

/-- Digits with an optional point, at least one digit in all, and an optional exponent. -/
def isDecimal (cs : List Char) : Bool :=
  let whole := cs.takeWhile Char.isDigit
  match cs.dropWhile Char.isDigit with
  | '.' :: rest =>
    let fraction := rest.takeWhile Char.isDigit
    ! (whole.isEmpty && fraction.isEmpty) && isExponent (rest.dropWhile Char.isDigit)
  | rest => ! whole.isEmpty && isExponent rest

/-- Whether a text spells a floating point number; infinities and not-a-number count. -/
def isReal (s : String) : Bool :=
  let cs := dropSign s.toList
  let word := String.ofList (cs.map Char.toLower)
  word == "inf" || word == "infinity" || word == "nan" || isDecimal cs

end Flowline.Text
