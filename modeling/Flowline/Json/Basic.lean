import Flowline.Decimal.Shortest
import Flowline.Ordered

/-!
# JSON values

Numbers are whole numbers or doubles; the members of an object are kept in the order of their keys
and each key occurs once when the object was built by `Table.insert`.
-/

namespace Flowline

/-- A JSON number: a whole number between `-2 ^ 63` and `2 ^ 64 - 1`, or a double. -/
inductive Number
  | int (value : Int)
  | float (value : Float)

inductive Json
  | null
  | bool (value : Bool)
  | number (value : Number)
  | string (value : String)
  | array (items : List Json)
  | object (members : List (String × Json))

/-- The members of an object. -/
abbrev Members := Table Json

namespace Number

/-- Doubles are written positionally from `1e-5` up to `1e16`, always with a point or an exponent. -/
def layout : Decimal.Layout := ⟨-5, 16, "+", "e"⟩

/-- The text of a finite double. -/
def floatText (x : Float) : String :=
  let bits := x.toBits.toNat
  let magnitude := Decimal.Binary.ofBits bits
  let sign := if bits < 0x8000000000000000 then "" else "-"
  if magnitude.mantissa = 0 then sign ++ "0.0"
  else sign ++ layout.render magnitude.shortest

def render : Number → String
  | .int n => toString n
  | .float x => floatText x

/-- The value of a number that is whole and not negative. -/
def natural? : Number → Option Nat
  | .int n => if 0 ≤ n then some n.toNat else none
  | .float _ => none

end Number

namespace Json

/-- An object with the given members. -/
def ofMembers (members : List (String × Json)) : Json := .object (Table.ofList members)

def nat (n : Nat) : Json := .number (.int n)

def int (n : Int) : Json := .number (.int n)

def strings (xs : List String) : Json := .array (xs.map .string)

/-- `null` for nothing. -/
def orNull : Option Json → Json
  | some v => v
  | none => .null

def isNull : Json → Bool
  | .null => true
  | _ => false

def string? : Json → Option String
  | .string s => some s
  | _ => none

def array? : Json → Option (List Json)
  | .array items => some items
  | _ => none

end Json

end Flowline
