import Flowline.Json.Printer
import Flowline.Text
import Flowline.Text.Quoted

/-!
# What is wrong with a document

The first problem met in a JSON document, read from left to right: in its syntax or in its shape.
-/

namespace Flowline.Json

/-- What was being read when the text ended. -/
inductive Region
  | value
  | object
  | list
  | string
  deriving DecidableEq

/-- A value of an unwanted kind. -/
inductive Found
  | null
  | bool (value : Bool)
  | number (value : Number)
  | string (value : String)
  | sequence
  | map

inductive Fault
  | unfinished (region : Region)
  | expectedValue
  | expectedWord
  | expectedColon
  | expectedListEnd
  | expectedObjectEnd
  | keyNotString
  | trailingComma
  | trailingText
  | badNumber
  | outOfRange
  | badEscape
  | controlCharacter
  | loneSurrogate
  | unpairedSurrogate
  | tooDeep
  | wrongType (found : Found) (wanted : String)
  | wrongSign (found : Int) (wanted : String)
  | missingField (name : String)
  | duplicateField (name : String)
  | unknownVariant (name : String) (known : List String)
  | wrongLength (length : Nat) (record : String) (fields : Nat)

def Region.text : Region → String
  | .value => "a value"
  | .object => "an object"
  | .list => "a list"
  | .string => "a string"

def Found.text : Found → String
  | .null => "null"
  | .bool b => "boolean `" ++ toString b ++ "`"
  | .number (.int n) => "integer `" ++ toString n ++ "`"
  | .number (.float x) => "floating point `" ++ Number.floatText x ++ "`"
  | .string s => "string " ++ Text.quoted s
  | .sequence => "sequence"
  | .map => "map"

/-- What a fault is, in words. -/
def Fault.text : Fault → String
  | .unfinished region => "EOF while parsing " ++ region.text
  | .expectedValue => "expected value"
  | .expectedWord => "expected ident"
  | .expectedColon => "expected `:`"
  | .expectedListEnd => "expected `,` or `]`"
  | .expectedObjectEnd => "expected `,` or `\x7d`"
  | .keyNotString => "key must be a string"
  | .trailingComma => "trailing comma"
  | .trailingText => "trailing characters"
  | .badNumber => "invalid number"
  | .outOfRange => "number out of range"
  | .badEscape => "invalid escape"
  | .controlCharacter => "control character (\\u0000-\\u001F) found while parsing a string"
  | .loneSurrogate => "lone leading surrogate in hex escape"
  | .unpairedSurrogate => "unexpected end of hex escape"
  | .tooDeep => "recursion limit exceeded"
  | .wrongType found wanted => "invalid type: " ++ found.text ++ ", expected " ++ wanted
  | .wrongSign found wanted => "invalid value: integer `" ++ toString found ++ "`, expected " ++ wanted
  | .missingField name => "missing field `" ++ name ++ "`"
  | .duplicateField name => "duplicate field `" ++ name ++ "`"
  | .unknownVariant name known =>
    "unknown variant `" ++ name ++ "`, expected one of " ++
      String.intercalate ", " (known.map fun k => "`" ++ k ++ "`")
  | .wrongLength length record fields =>
    "invalid length " ++ toString length ++ ", expected " ++ record ++ " with " ++ toString fields ++
      " elements"

/-- A fault in words.  Messages name no places, so whatever reads like one is left out. -/
def Fault.message (fault : Fault) : String := Text.dropPositions fault.text

end Flowline.Json
