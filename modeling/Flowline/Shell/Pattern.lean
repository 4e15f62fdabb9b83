import Flowline.Shell.Bytes

/-!
# Patterns

Patterns for whole words, as in `case` and in file names: `*` stands for any text, `?` for any
character and brackets for a choice of characters.  Quoted characters stand for themselves.
-/

namespace Flowline.Shell

/-- A choice of characters. -/
structure CharSet where
  negated : Bool
  ranges : List (Char × Char)

namespace CharSet

def has (s : CharSet) (c : Char) : Bool :=
  (s.ranges.any fun (a, b) => a ≤ c && c ≤ b) != s.negated

/-- The characters of a named class. -/
def classRanges : String → List (Char × Char)
  | "alpha" => [('a', 'z'), ('A', 'Z')]
  | "digit" => [('0', '9')]
  | "alnum" => [('a', 'z'), ('A', 'Z'), ('0', '9')]
  | "upper" => [('A', 'Z')]
  | "lower" => [('a', 'z')]
  | "space" => [(' ', ' '), ('\t', '\r')]
  | "blank" => [(' ', ' '), ('\t', '\t')]
  | "punct" => [('!', '/'), (':', '@'), ('[', '\x60'), ('\x7b', '~')]
  | "xdigit" => [('0', '9'), ('a', 'f'), ('A', 'F')]
  | "print" => [(' ', '~')]
  | "graph" => [('!', '~')]
  | "cntrl" => [('\x00', '\x1f'), ('\x7f', '\x7f')]
  | _ => []

/-- The items up to the closing bracket, which may stand first as an item. -/
def items : Nat → Bool → List (Char × Char) → List Char → Option (List (Char × Char) × List Char)
  | 0, _, _, _ => none
  | _, _, _, [] => none
  | fuel + 1, first, found, ']' :: cs =>
    if first then items fuel false ((']', ']') :: found) cs else some (found, cs)
  | fuel + 1, _, found, '[' :: ':' :: cs =>
    let name := cs.takeWhile Char.isAlpha
    match cs.drop name.length with
    | ':' :: ']' :: rest => items fuel false (classRanges (String.ofList name) ++ found) rest
    | _ => items fuel false (('[', '[') :: found) (':' :: cs)
  | fuel + 1, _, found, a :: '-' :: b :: cs =>
    if b = ']' then items fuel false ((a, a) :: found) ('-' :: b :: cs)
    else items fuel false ((a, b) :: found) cs
  | fuel + 1, _, found, a :: cs => items fuel false ((a, a) :: found) cs

/-- The choice after an opening bracket, negated by one of the given characters in front. -/
def read (negations : List Char) (cs : List Char) : Option (CharSet × List Char) :=
  match cs with
  | [] => none
  | c :: rest =>
    let negated := negations.contains c
    (items (cs.length + 1) true [] (if negated then rest else cs)).map
      fun (ranges, rest) => (⟨negated, ranges⟩, rest)

end CharSet

inductive Glyph
  | exact (c : Char)
  | anyOne
  | anyText
  | choice (s : CharSet)

/-- A backslash that is not quoted quotes the character after it. -/
def resolveEscapes : List (Char × Bool) → List (Char × Bool)
  | ('\\', false) :: (c, _) :: rest => (c, true) :: resolveEscapes rest
  | x :: rest => x :: resolveEscapes rest
  | [] => []

/-- The items of a choice up to the bracket that closes it, which may stand first as an item.  Quoted
characters stand for themselves. -/
def choiceItems : Nat → Bool → List (Char × Char) → List (Char × Bool) →
    Option (List (Char × Char) × List (Char × Bool))
  | 0, _, _, _ => none
  | _, _, _, [] => none
  | fuel + 1, first, found, (a, quoted) :: cs =>
    if a = ']' && ! quoted && ! first then some (found, cs)
    else
      let plain := String.ofList (cs.map Prod.fst)
      let name := (plain.toList.drop 1).takeWhile Char.isAlpha
      let isClass := a = '[' && ! quoted && [':'].isPrefixOf plain.toList &&
        [':', ']'].isPrefixOf (plain.toList.drop (1 + name.length))
      if isClass then
        choiceItems fuel false (CharSet.classRanges (String.ofList name) ++ found) (cs.drop (name.length + 3))
      else
        match cs with
        | ('-', false) :: (b, bQuoted) :: rest =>
          if b = ']' && ! bQuoted then choiceItems fuel false ((a, a) :: found) cs
          else choiceItems fuel false ((a, b) :: found) rest
        | cs => choiceItems fuel false ((a, a) :: found) cs

/-- The choice after an opening bracket and what follows it. -/
def choice? (cs : List (Char × Bool)) : Option (CharSet × List (Char × Bool)) :=
  let negated := match cs with
    | (c, false) :: _ => c = '!' || c = '^'
    | _ => false
  (choiceItems (cs.length + 1) true [] (if negated then cs.drop 1 else cs)).map fun (ranges, rest) =>
    (⟨negated, ranges⟩, rest)

/-- The glyphs of a word whose characters are quoted or not. -/
def glyphs : Nat → List (Char × Bool) → List Glyph
  | 0, _ => []
  | _, [] => []
  | fuel + 1, (c, quoted) :: rest =>
    let plain := .exact c :: glyphs fuel rest
    if quoted then plain
    else if c = '*' then .anyText :: glyphs fuel rest
    else if c = '?' then .anyOne :: glyphs fuel rest
    else if c = '[' then
      match choice? rest with
      | some (s, after) => .choice s :: glyphs fuel after
      | none => plain
    else plain

abbrev Pattern := List Glyph

namespace Pattern

def ofWord (word : List (Char × Bool)) : Pattern :=
  let word := resolveEscapes word
  glyphs (word.length + 1) word

/-- Whether anything in a pattern stands for more than itself. -/
def isActive (p : Pattern) : Bool :=
  p.any fun
    | .exact _ => false
    | _ => true

/-- Whether some end of the text satisfies `p`. -/
def someEnd (p : List Char → Bool) : List Char → Bool
  | [] => p []
  | c :: cs => p (c :: cs) || someEnd p cs

/-- Whether a pattern matches a whole text. -/
def matchesAll : Pattern → List Char → Bool
  | [], cs => cs.isEmpty
  | .anyText :: ps, cs => someEnd (matchesAll ps) cs
  | .anyOne :: ps, cs =>
    match cs with
    | [] => false
    | _ :: cs => matchesAll ps cs
  | .exact a :: ps, cs =>
    match cs with
    | [] => false
    | c :: cs => a = c && matchesAll ps cs
  | .choice s :: ps, cs =>
    match cs with
    | [] => false
    | c :: cs => s.has c && matchesAll ps cs

/-- The text without the shortest or the longest part in front that matches. -/
def cutFront (p : Pattern) (longest : Bool) (s : String) : String :=
  let cs := s.toList
  let sizes := List.range (cs.length + 1)
  match (if longest then sizes.reverse else sizes).find? fun n => p.matchesAll (cs.take n) with
  | some n => String.ofList (cs.drop n)
  | none => s

/-- The text without the shortest or the longest end that matches. -/
def cutSuffix (p : Pattern) (longest : Bool) (s : String) : String :=
  let cs := s.toList
  let sizes := List.range (cs.length + 1)
  match (if longest then sizes else sizes.reverse).find? fun n => p.matchesAll (cs.drop n) with
  | some n => String.ofList (cs.take n)
  | none => s

end Pattern

end Flowline.Shell
