import Flowline.Json.Basic
import Flowline.Text

/-!
# Expressions of the generated script

Texts, configuration values, field paths and comparisons as expressions, and node ids as variables.
-/

namespace Flowline.Script

/-! ## Literals -/

def escapeChar (c : Char) : List Char :=
  if c = '\\' then ['\\', '\\']
  else if c = '"' then ['\\', '"']
  else if c = '\n' then ['\\', 'n']
  else if c = '\r' then ['\\', 'r']
  else if c = '\t' then ['\\', 't']
  else [c]

/-- The characters of a string literal. -/
def quoteChars (s : String) : List Char := '"' :: (s.toList.flatMap escapeChar ++ ['"'])

/-- A string literal. -/
def quote (s : String) : String := String.ofList (quoteChars s)

mutual

def literalChars : Json → List Char
  | .null => "null".toList
  | .bool true => "true".toList
  | .bool false => "false".toList
  | .number n => n.render.toList
  | .string s => quoteChars s
  | .array [] => ['[', ']']
  | .array (v :: vs) => '[' :: (literalChars v ++ (moreItems vs ++ [']']))
  | .object [] => ['\x7b', '\x7d']
  | .object ((k, v) :: ms) =>
    '\x7b' :: ' ' :: (quoteChars k ++ ':' :: ' ' :: (literalChars v ++
      (moreMembers ms ++ [' ', '\x7d'])))

/-- The items after the first, each after a comma and a space. -/
def moreItems : List Json → List Char
  | [] => []
  | v :: vs => ',' :: ' ' :: (literalChars v ++ moreItems vs)

/-- The members after the first, each after a comma and a space. -/
def moreMembers : List (String × Json) → List Char
  | [] => []
  | (k, v) :: ms => ',' :: ' ' :: (quoteChars k ++ ':' :: ' ' :: (literalChars v ++ moreMembers ms))

end

/-- A value as a literal. -/
def literal (v : Json) : String := String.ofList (literalChars v)

/-! ## Paths -/

/-- The names along a dotted path: its parts, trimmed, without empty ones. -/
def pathNames (path : String) : List String :=
  ((Text.split '.' path).map Text.trim).filter (· ≠ "")

/-- The step to one property, as a compiler writes it whose machine counts to `largest`: a natural number
that is no larger is an index. -/
def accessorFor (largest : Nat) (name : String) : String :=
  match Text.naturalUpTo? largest name with
  | some i => "?.[" ++ toString i ++ "]"
  | none => "?.[" ++ quote name ++ "]"

/-- The value at a dotted path below `base`, nothing if some value on the way is missing. -/
def accessFor (largest : Nat) (base path : String) : String :=
  base ++ String.join ((pathNames path).map (accessorFor largest))

/-- The step to one property on a 64-bit machine. -/
def accessor (name : String) : String := accessorFor Text.maxWord name

/-- The value at a dotted path on a 64-bit machine. -/
def access (base path : String) : String := accessFor Text.maxWord base path

theorem accessor_eq (name : String) : accessor name = match Text.natural? name with
    | some i => "?.[" ++ toString i ++ "]"
    | none => "?.[" ++ quote name ++ "]" := rfl

theorem access_eq (base path : String) :
    access base path = base ++ String.join ((pathNames path).map accessor) := rfl

/-! ## Comparisons -/

/-- The test of an operator; an unknown one asks whether there is a value. -/
def comparison (operator lhs rhs : String) : String :=
  let numeric (op : String) := "Number(" ++ lhs ++ ") " ++ op ++ " Number(" ++ rhs ++ ")"
  if operator = "equals" then lhs ++ " === " ++ rhs
  else if operator = "notEquals" then lhs ++ " !== " ++ rhs
  else if operator = "gt" then numeric ">"
  else if operator = "gte" then numeric ">="
  else if operator = "lt" then numeric "<"
  else if operator = "lte" then numeric "<="
  else if operator = "contains" then "String(" ++ lhs ++ ").includes(String(" ++ rhs ++ "))"
  else lhs ++ " != null"

/-! ## Variables -/

/-- An id with everything but letters and digits replaced by underscores. -/
def identifier (id : String) : String :=
  String.ofList (id.toList.map fun c => if Text.isLetterOrDigit c then c else '_')

/-- The variable of a node. -/
def stepVar (id : String) : String := "step_" ++ identifier id

/-- The first of `base`, `base_n`, `base_(n+1)`, … that is not taken; `fuel` bounds the search. -/
def freshVar (base : String) (taken : List String) : Nat → Nat → String → String
  | 0, _, candidate => candidate
  | fuel + 1, n, candidate =>
    if taken.contains candidate then freshVar base taken fuel (n + 1) (base ++ "_" ++ toString n)
    else candidate

/-- Gives an id a variable that no other has, unless it has one. -/
def assignVar (vars : List (String × String)) (id : String) : List (String × String) :=
  if (vars.lookup id).isSome then vars
  else
    let taken := vars.map Prod.snd
    vars ++ [(id, freshVar (stepVar id) taken (taken.length + 1) 2 (stepVar id))]

/-- One variable for each distinct id, in the order of the ids; later ones give way by a number. -/
def assignVars (ids : List String) : List (String × String) := ids.foldl assignVar []

end Flowline.Script
