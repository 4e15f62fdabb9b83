import Flowline.Json.Basic
import Flowline.Text

/-!
# Field types

What the value of a configuration field has to look like, and why a value does not.
-/

namespace Flowline

inductive FieldType
  | string
  /-- A number, or text that spells one. -/
  | number
  /-- A natural number below `2 ^ 64`, or text that spells one. -/
  | integer
  | boolean
  /-- `0x` and 40 hexadecimal digits. -/
  | address
  | addressList
  | url
  /-- Five or six words. -/
  | cron
  | oneOf (allowed : List String)
  | secretName
  | chainName
  | json
  | stringList
  | any
  deriving DecidableEq

/-- Why a value is not of a type. -/
inductive Mismatch
  | notString
  | notNumber
  | notNatural
  | notBoolean
  | notAddress (text : String)
  | notAddressList
  | notUrl (text : String)
  | cronLength (words : Nat)
  | notAllowed (text : String) (allowed : List String)
  | badSecretName (text : String)
  | notStringList

/-- `0x` and 40 hexadecimal digits. -/
def isAddress (s : String) : Bool :=
  match s.toList with
  | '0' :: 'x' :: digits => digits.length == 40 && digits.all Text.isHexDigit
  | _ => false

/-- Absent, `null`, or text without anything but blanks. -/
def isMissing : Option Json → Bool
  | none => true
  | some .null => true
  | some (.string s) => Text.isAllBlank s
  | some _ => false

/-- The text of a string, trimmed. -/
def trimmed? (v : Json) : Option String := v.string?.map Text.trim

namespace FieldType

/-- Whether a character may stand in the name of a secret. -/
def isSecretNameChar (c : Char) : Bool := Text.isLetterOrDigit c || c = '_' || c = '-'

def checkAddress (v : Json) : Except Mismatch Unit :=
  match trimmed? v with
  | none => .error .notString
  | some s => if isAddress s then .ok () else .error (.notAddress s)

/-- The check of a type that looks at trimmed text. -/
def checkText (v : Json) (judge : String → Except Mismatch Unit) : Except Mismatch Unit :=
  match trimmed? v with
  | none => .error .notString
  | some s => judge s

/-- Whether a value is of a type, and if not, why. -/
def check (type : FieldType) (v : Json) : Except Mismatch Unit :=
  match type with
  | string | chainName => checkText v fun _ => .ok ()
  | number =>
    match v with
    | .number _ => .ok ()
    | .string s => if Text.isReal (Text.trim s) then .ok () else .error .notNumber
    | _ => .error .notNumber
  | integer =>
    match v with
    | .number n => if n.natural?.isSome then .ok () else .error .notNatural
    | .string s => if (Text.natural? (Text.trim s)).isSome then .ok () else .error .notNatural
    | _ => .error .notNatural
  | boolean =>
    match v with
    | .bool _ => .ok ()
    | _ => .error .notBoolean
  | address => checkAddress v
  | addressList =>
    match v with
    | .array items => items.forM checkAddress
    | _ => .error .notAddressList
  | url => checkText v fun s =>
    if "http://".toList.isPrefixOf s.toList || "https://".toList.isPrefixOf s.toList then .ok ()
    else .error (.notUrl s)
  | cron => checkText v fun s =>
    let n := (Text.words s).length
    if n = 5 || n = 6 then .ok () else .error (.cronLength n)
  | oneOf allowed => checkText v fun s =>
    if allowed.contains s then .ok () else .error (.notAllowed s allowed)
  | secretName => checkText v fun s =>
    if s.toList.all isSecretNameChar then .ok () else .error (.badSecretName s)
  | stringList =>
    match v with
    | .array items => if items.all (·.string?.isSome) then .ok () else .error .notStringList
    | _ => .error .notStringList
  | json | any => .ok ()

end FieldType

def Mismatch.message : Mismatch → String
  | notString => "expected a string"
  | notNumber => "expected a number"
  | notNatural => "expected a non-negative integer"
  | notBoolean => "expected true or false"
  | notAddress s => "'" ++ s ++ "' is not a 0x-prefixed 20-byte address"
  | notAddressList => "expected a list of addresses"
  | notUrl s => "'" ++ s ++ "' is not an http(s) URL"
  | cronLength n => "cron expression must have 5 or 6 fields, found " ++ toString n
  | notAllowed s allowed => "'" ++ s ++ "' is not one of: " ++ String.intercalate ", " allowed
  | badSecretName s => "secret name '" ++ s ++ "' may only contain letters, digits, '_' and '-'"
  | notStringList => "expected a list of strings"

end Flowline
