import Flowline.Text
import Flowline.Text.Utf8

/-!
# Texts of bytes

A script works on bytes.  They are held as texts whose characters are all below 256, one character for
each byte.
-/

namespace Flowline.Shell

/-- The bytes of a text, one character each. -/
def ofText (s : String) : String :=
  String.ofList ((Text.Utf8.encode s).map fun b => Char.ofNat b.toNat)

/-- The bytes that a text of bytes holds. -/
def toBytes (s : String) : List UInt8 := s.toList.map fun c => UInt8.ofNat c.toNat

def isSpace (c : Char) : Bool := c = ' ' || ('\t' ≤ c && c ≤ '\r')

/-- The lines of a text; a line feed at the end starts no further line. -/
def splitLines (s : String) : List String :=
  let ls := Text.split '\n' s
  if ls.getLast? = some "" then ls.dropLast else ls

/-- Whether the text ends in the middle of a line. -/
def endsOpen (s : String) : Bool := s.toList.getLast?.any (· ≠ '\n')

/-- The text of some lines, each ended by a line feed. -/
def joinLines (ls : List String) : String := String.join (ls.map (· ++ "\n"))

/-- The whole number that some characters spell, with an optional sign. -/
def integerOf? (cs : List Char) : Option Int :=
  let digits := Text.dropSign cs
  if digits.isEmpty || ! digits.all Char.isDigit then none
  else
    let n := Text.digitsValue digits
    some (if cs.head? = some '-' then - n else n)

/-- The whole number that a text spells, with an optional sign. -/
def integer? (s : String) : Option Int := integerOf? s.toList

end Flowline.Shell
