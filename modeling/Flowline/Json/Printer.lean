import Flowline.Json.Basic

/-!
# Writing JSON

`Json.render` writes a value without any space, `Json.pretty` with one item a line.  Members are
written in the order in which the value holds them.
-/

namespace Flowline.Json

/-! ## Strings -/

def hexDigit (n : Nat) : Char :=
  if n < 10 then Char.ofNat ('0'.toNat + n) else Char.ofNat ('a'.toNat + (n - 10))

/-- Quotes, backslashes and control characters are escaped; everything else stands for itself. -/
def escapeChar (c : Char) : List Char :=
  if c = '"' then ['\\', '"']
  else if c = '\\' then ['\\', '\\']
  else if c = '\n' then ['\\', 'n']
  else if c = '\r' then ['\\', 'r']
  else if c = '\t' then ['\\', 't']
  else if c = '\x08' then ['\\', 'b']
  else if c = '\x0c' then ['\\', 'f']
  else if c.toNat < 0x20 then
    ['\\', 'u', '0', '0', hexDigit (c.toNat / 16), hexDigit (c.toNat % 16)]
  else [c]

/-- The characters of a string literal. -/
def quoteChars (s : String) : List Char := '"' :: (s.toList.flatMap escapeChar ++ ['"'])

/-- A string literal. -/
def quote (s : String) : String := String.ofList (quoteChars s)

/-! ## Compact text -/

mutual

def chars : Json → List Char
  | .null => "null".toList
  | .bool true => "true".toList
  | .bool false => "false".toList
  | .number n => n.render.toList
  | .string s => quoteChars s
  | .array [] => ['[', ']']
  | .array (v :: vs) => '[' :: (chars v ++ (itemsChars vs ++ [']']))
  | .object [] => ['\x7b', '\x7d']
  | .object ((k, v) :: ms) =>
    '\x7b' :: (quoteChars k ++ ':' :: (chars v ++ (membersChars ms ++ ['\x7d'])))

/-- The items after the first, each after a comma. -/
def itemsChars : List Json → List Char
  | [] => []
  | v :: vs => ',' :: (chars v ++ itemsChars vs)

/-- The members after the first, each after a comma. -/
def membersChars : List (String × Json) → List Char
  | [] => []
  | (k, v) :: ms => ',' :: (quoteChars k ++ ':' :: (chars v ++ membersChars ms))

end

/-- The text of a value, without spaces. -/
def render (v : Json) : String := String.ofList v.chars

/-! ## Text with indentation -/

def newline (depth : Nat) : String := "\n" ++ String.join (List.replicate depth "  ")

mutual

/-- The text of a value that stands at a given depth, two spaces a level. -/
def prettyAt (depth : Nat) : Json → String
  | .array [] => "[]"
  | .array (v :: vs) =>
    "[" ++ newline (depth + 1) ++ prettyAt (depth + 1) v ++ prettyItems (depth + 1) vs ++
      newline depth ++ "]"
  | .object [] => "\x7b\x7d"
  | .object ((k, v) :: ms) =>
    "\x7b" ++ newline (depth + 1) ++ quote k ++ ": " ++ prettyAt (depth + 1) v ++
      prettyMembers (depth + 1) ms ++ newline depth ++ "\x7d"
  | v => render v

def prettyItems (depth : Nat) : List Json → String
  | [] => ""
  | v :: vs => "," ++ newline depth ++ prettyAt depth v ++ prettyItems depth vs

def prettyMembers (depth : Nat) : List (String × Json) → String
  | [] => ""
  | (k, v) :: ms =>
    "," ++ newline depth ++ quote k ++ ": " ++ prettyAt depth v ++ prettyMembers depth ms

end

/-- The text of a value, one item or member a line. -/
def pretty (v : Json) : String := prettyAt 0 v

end Flowline.Json
