import Flowline.Shell.Pattern

/-!
# Regular expressions

The basic and the extended expressions of the text utilities.  Of all matches the leftmost counts, and
of these the longest; the first parts of an expression match as much as they can.
-/

namespace Flowline.Shell

inductive Regex
  | empty
  | exact (c : Char)
  | anyOne
  | choice (s : CharSet)
  | lineStart
  | lineEnd
  /-- Where a line starts among several. -/
  | pieceStart
  /-- Where a line ends among several. -/
  | pieceEnd
  /-- Between a word character and another, or nowhere there if `inside`. -/
  | boundary (inside : Bool)
  | wordStart
  | wordEnd
  | group (n : Nat) (r : Regex)
  /-- What a group has matched. -/
  | again (n : Nat)
  | both (a b : Regex)
  | either (a b : Regex)
  /-- At least `least` times, at most `most` times if that is given. -/
  | times (r : Regex) (least : Nat) (most : Option Nat)

namespace Regex

/-! ## Reading -/

/-- Why a text is no expression. -/
inductive Fault
  | malformed
  | openBracket
  | openGroup
  | noGroup
  | openBounds
  | badBounds
  | badClass
  /-- A class stands in one pair of brackets only. -/
  | bareClass
  | badCollation
  | tooBig
  | badRange
  | badReference
  | nothingToRepeat
  | trailingBackslash

def Fault.message : Fault → String
  | malformed => "Invalid regular expression"
  | openBracket => "Unmatched [, [^, [:, [., or [="
  | openGroup => "Unmatched ( or \\("
  | noGroup => "Unmatched ) or \\)"
  | openBounds => "Unmatched \\\x7b"
  | badBounds => "Invalid content of \\\x7b\\\x7d"
  | badClass => "Invalid character class name"
  | bareClass => "character class syntax is [[:space:]], not [:space:]"
  | badCollation => "Invalid collation character"
  | tooBig => "Regular expression too big"
  | badRange => "Invalid range end"
  | badReference => "Invalid back reference"
  | nothingToRepeat => "Invalid preceding regular expression"
  | trailingBackslash => "Trailing backslash"

/-- How expressions are written. -/
structure Dialect where
  extended : Bool
  /-- Parentheses and repetitions that stand alone are refused. -/
  strict : Bool
  /-- Brackets that look like the name of a class are refused. -/
  careful : Bool := false

/-- What stands in front of a part of an alternative. -/
inductive Opening
  | nothing
  /-- Only that a line starts here. -/
  | anchor
  | more
  deriving BEq

/-- What is left of an expression, the number of groups so far, and the groups that are complete. -/
structure Cursor where
  chars : List Char
  groups : Nat
  closed : List Nat

abbrev Parser := StateT Cursor (Except Fault)

def chars : Parser (List Char) := do return (← get).chars

def skip (n : Nat) : Parser Unit := modify fun s => { s with chars := s.chars.drop n }

def accept (s : String) : Parser Bool := do
  if s.toList.isPrefixOf (← chars) then
    skip s.length
    return true
  else return false

def number : Parser (Option Nat) := do
  let digits := (← chars).takeWhile Char.isDigit
  skip digits.length
  return if digits.isEmpty then none else some (Text.digitsValue digits)

/-- The bounds in braces and what closes them; nothing if they make no sense where they need not. -/
def bounds (d : Dialect) (close : String) : Parser (Option (Nat × Option Nat)) := do
  let before ← get
  let give (fault : Fault) : Parser (Option (Nat × Option Nat)) := do
    if d.extended && ! d.strict then
      set before
      return none
    else throw fault
  let least ← number
  let most ← if ← accept "," then do
      let most ← number
      pure (some most)
    else pure none
  if ← accept close then
    if (least.toList ++ most.toList.flatMap Option.toList).any (0x7fff < ·) then throw .tooBig
    match least, most with
    | some n, none => return some (n, some n)
    | none, none => give .badBounds
    | least, some (some m) =>
      if m < least.getD 0 then throw .badBounds else return some (least.getD 0, some m)
    | least, some none => return some (least.getD 0, none)
  else give (if (← chars).isEmpty then .openBounds else .badBounds)

/-- The repetitions after an expression. -/
def repeated (d : Dialect) : Nat → Regex → Parser Regex
  | 0, _ => throw .malformed
  | fuel + 1, r => do
    let escape := if d.extended then "" else "\\"
    if ← accept "*" then repeated d fuel (.times r 0 none)
    else if ← accept (escape ++ "+") then repeated d fuel (.times r 1 none)
    else if ← accept (escape ++ "?") then repeated d fuel (.times r 0 (some 1))
    else if ← accept (escape ++ "\x7b") then
      match ← bounds d (escape ++ "\x7d") with
      | some (least, most) => repeated d fuel (.times r least most)
      | none => repeated d fuel (.both r (.exact '\x7b'))
    else return r

def wordRanges : List (Char × Char) := ('_', '_') :: CharSet.classRanges "alnum"

/-- What a letter after a backslash stands for. -/
def escaped (c : Char) : Regex :=
  match c with
  | 'w' => .choice ⟨false, wordRanges⟩
  | 'W' => .choice ⟨true, wordRanges⟩
  | 's' => .choice ⟨false, CharSet.classRanges "space"⟩
  | 'S' => .choice ⟨true, CharSet.classRanges "space"⟩
  | 'b' => .boundary false
  | 'B' => .boundary true
  | '<' => .wordStart
  | '>' => .wordEnd
  | '\x60' => .lineStart
  | '\'' => .lineEnd
  | 'n' => .exact '\n'
  | 't' => .exact '\t'
  | c => .exact c

/-- The characters up to `mark` and a closing bracket, and what follows. -/
def bracketName (mark : Char) : List Char → Option (List Char × List Char)
  | [] => none
  | c :: ']' :: rest => if c = mark then some ([], rest) else
      (bracketName mark (']' :: rest)).map fun (name, rest) => (c :: name, rest)
  | c :: rest => (bracketName mark rest).map fun (name, rest) => (c :: name, rest)

/-- One end of a range in brackets, and what follows. -/
def bracketEnd : List Char → Except Fault (Char × List Char)
  | [] => .error .openBracket
  | '[' :: m :: cs =>
    if m = '.' || m = '=' then
      match bracketName m cs with
      | some ([c], rest) => .ok (c, rest)
      | some _ => .error .badCollation
      | none => .error .openBracket
    else .ok ('[', m :: cs)
  | c :: cs => .ok (c, cs)

/-- The items in brackets up to the closing one, which may stand first as an item. -/
def bracketItems : Nat → Bool → List (Char × Char) → List Char → Except Fault (List (Char × Char) × List Char)
  | 0, _, _, _ => .error .malformed
  | _, _, _, [] => .error .openBracket
  | fuel + 1, first, found, '[' :: ':' :: cs =>
    match bracketName ':' cs with
    | some (name, rest) =>
      let ranges := CharSet.classRanges (String.ofList name)
      if ranges.isEmpty then .error .badClass else bracketItems fuel false (ranges ++ found) rest
    | none => if first then bracketItems fuel false (('[', '[') :: found) (':' :: cs)
        else bracketItems fuel false (('[', '[') :: found) (':' :: cs)
  | fuel + 1, first, found, c :: cs => do
    if c = ']' && ! first then return (found, cs)
    if c = '-' && ! first && cs.head? ≠ some ']' then throw .badRange
    let (a, rest) ← bracketEnd (c :: cs)
    match rest with
    | '-' :: ']' :: _ => bracketItems fuel false ((a, a) :: found) rest
    | '-' :: more =>
      let (b, rest) ← bracketEnd more
      if b < a then throw .badRange
      bracketItems fuel false ((a, b) :: found) rest
    | rest => bracketItems fuel false ((a, a) :: found) rest

/-- Whether what is in brackets looks like the name of a class, between colons. -/
def isBareClass (cs : List Char) : Bool :=
  cs.head? = some ':' && cs.getLast? = some ':' && cs.any (· ≠ ':') && cs.all fun c => c ≠ '-' && c ≠ '['

/-- The choice after an opening bracket. -/
def bracket (d : Dialect) (cs : List Char) : Except Fault (CharSet × List Char) := do
  let negated := cs.head? = some '^'
  let cs := if negated then cs.drop 1 else cs
  if cs.isEmpty then throw .malformed
  let (ranges, rest) ← bracketItems (cs.length + 1) true [] cs
  if d.careful && isBareClass (cs.take (cs.length - rest.length - 1)) then throw .bareClass
  return (⟨negated, ranges⟩, rest)

mutual

def alternatives (d : Dialect) : Nat → Parser Regex
  | 0 => throw .malformed
  | fuel + 1 => do
    let r ← sequence d fuel .nothing
    if ← accept (if d.extended then "|" else "\\|") then
      return .either r (← alternatives d fuel)
    else return r

/-- The expressions up to the end of an alternative. -/
def sequence (d : Dialect) : Nat → Opening → Parser Regex
  | 0, _ => throw .malformed
  | fuel + 1, opening => do
    let ends := match ← chars with
      | [] => true
      | '\\' :: c :: _ => ! d.extended && (c = ')' || c = '|')
      | c :: _ => d.extended && (c = ')' || c = '|')
    if ends then return .empty
    let r ← single d fuel opening
    let next : Opening := match r with
      | .lineStart => if opening == .more then .more else .anchor
      | _ => .more
    return .both r (← sequence d fuel next)

def single (d : Dialect) : Nat → Opening → Parser Regex
  | 0, _ => throw .malformed
  | fuel + 1, opening => do
    let first := ! opening == .more
    let group (close : String) : Parser Regex := do
      let n := (← get).groups + 1
      modify fun s => { s with groups := n }
      let r ← alternatives d fuel
      if ← accept close then
        modify fun s => { s with closed := n :: s.closed }
        repeated d (fuel + 1) (.group n r)
      else throw .openGroup
    match ← chars with
    | [] => throw .malformed
    | '\\' :: [] => throw .trailingBackslash
    | '\\' :: c :: _ =>
      skip 2
      if c = '(' && ! d.extended then group "\\)"
      else if c = '\x7b' && ! d.extended && first && d.strict then throw .nothingToRepeat
      else if c.isDigit && c ≠ '0' then
        let n := c.toNat - '0'.toNat
        if ! (← get).closed.contains n then throw .badReference
        repeated d (fuel + 1) (.again n)
      else repeated d (fuel + 1) (escaped c)
    | '[' :: cs =>
      match bracket d cs with
      | .ok (s, rest) =>
        modify fun t => { t with chars := rest }
        repeated d (fuel + 1) (.choice s)
      | .error fault => throw fault
    | c :: cs =>
      skip 1
      if c = '.' then repeated d (fuel + 1) .anyOne
      else if c = '^' && (d.extended || opening == .nothing) then return .lineStart
      else if c = '$' && (d.extended || cs.isEmpty || "\\)".toList.isPrefixOf cs ||
          "\\|".toList.isPrefixOf cs) then return .lineEnd
      else if c = '(' && d.extended then group ")"
      else if first && (c = '*' || (d.extended && (c = '+' || c = '?' || c = '\x7b'))) then
        if ! d.extended then repeated d (fuel + 1) (.exact c)
        else if d.strict then throw .nothingToRepeat
        else if c = '\x7b' then
          match ← bounds d "\x7d" with
          | some _ => repeated d (fuel + 1) .empty
          | none => repeated d (fuel + 1) (.exact c)
        else repeated d (fuel + 1) .empty
      else repeated d (fuel + 1) (.exact c)

end

/-- The whole expression: closing parentheses that stand alone are characters, if that is allowed. -/
def whole (d : Dialect) : Nat → Parser Regex
  | 0 => throw .malformed
  | fuel + 1 => do
    let r ← alternatives d (fuel + 1)
    match ← chars with
    | [] => return r
    | _ =>
      if ! d.extended || d.strict then throw .noGroup
      skip 1
      return .both r (.both (.exact ')') (← whole d fuel))

/-- The expression that a text writes. -/
def parse? (d : Dialect) (s : String) : Except Fault Regex :=
  (whole d (4 * s.length + 8)).run' ⟨s.toList, 0, []⟩

/-- The expression that a text writes, if it is well-formed. -/
def parse (extended : Bool) (s : String) : Option Regex := (parse? ⟨extended, false, false⟩ s).toOption

/-- The number of the last group. -/
def groupCount : Regex → Nat
  | .group n r => max n r.groupCount
  | .both a b => max a.groupCount b.groupCount
  | .either a b => max a.groupCount b.groupCount
  | .times r _ _ => r.groupCount
  | _ => 0

/-- The expression for texts of several lines, at each of which it may start and end. -/
def byLines : Regex → Regex
  | .lineStart => .pieceStart
  | .lineEnd => .pieceEnd
  | .group n r => .group n r.byLines
  | .both a b => .both a.byLines b.byLines
  | .either a b => .either a.byLines b.byLines
  | .times r least most => .times r.byLines least most
  | r => r

/-- An expression for just one text. -/
def literal (s : String) : Regex := s.toList.foldr (fun c r => .both (.exact c) r) .empty

/-- Whether what a group has matched comes up again. -/
def hasAgain : Regex → Bool
  | .again _ => true
  | .group _ r => r.hasAgain
  | .both a b => a.hasAgain || b.hasAgain
  | .either a b => a.hasAgain || b.hasAgain
  | .times r _ _ => r.hasAgain
  | _ => false

/-! ## Matching -/

/-- A place in a line: how far it is from the start, the character before it, what is after it, and the
groups matched. -/
structure Place where
  column : Nat
  before : Option Char
  after : List Char
  groups : List (Nat × List Char)

def isWordChar (c : Char) : Bool := c.isAlphanum || c = '_'

/-- How characters are compared. -/
def same (fold : Bool) (a b : Char) : Bool := if fold then a.toLower = b.toLower else a = b

namespace Place

/-- The place behind one character. -/
def advance (p : Place) (c : Char) (after : List Char) : Place := { p with column := p.column + 1, before := some c, after }

/-- Moves over one character that satisfies `f`. -/
def step (f : Char → Bool) (p : Place) : List Place :=
  match p.after with
  | c :: after => if f c then [p.advance c after] else []
  | [] => []

/-- Moves over the characters of a text. -/
def literally (fold : Bool) : List Char → Place → List Place
  | [], p => [p]
  | c :: cs, p =>
    match p.after with
    | d :: after => if same fold c d then literally fold cs (p.advance d after) else []
    | [] => []

/-- What lies between two places. -/
def textTo (p q : Place) : List Char := p.after.take (q.column - p.column)

/-- The places that are reached over at most `most` characters that satisfy `f`, the last one first; those
over fewer than `least` are left out. -/
def run (f : Char → Bool) (least : Nat) (most : Option Nat) : Nat → Nat → Place → List Place → List Place
  | 0, _, _, found => found
  | fuel + 1, count, p, found =>
    let found := if least ≤ count then p :: found else found
    if most = some count then found
    else match p.after with
      | c :: after => if f c then run f least most fuel (count + 1) (p.advance c after) found else found
      | [] => found

/-- Each place once, the farthest first; of equal ones the first counts.  They differ in their groups as well
if `byGroups`. -/
def tidy (byGroups : Bool) (ps : List Place) : List Place :=
  match ps with
  | [] => []
  | [p] => [p]
  | ps =>
    let sorted := ps.mergeSort fun a b => b.column ≤ a.column
    let rec drop : List Place → List Place
      | [] => []
      | [p] => [p]
      | p :: q :: rest =>
        if p.column = q.column && (! byGroups || p.groups == q.groups) then drop (p :: rest) else p :: drop (q :: rest)
    termination_by ps => ps.length
    drop sorted

/-- The places after repeated moves, those after more moves first. -/
def iterate (move : Place → List Place) (byGroups : Bool) (least : Nat) (most : Option Nat) :
    Nat → Nat → List Place → List Place
  | 0, count, ps => if least ≤ count then ps else []
  | fuel + 1, count, ps =>
    let here := if least ≤ count then ps else []
    if ps.isEmpty || most = some count then here
    else
      let next := tidy byGroups (ps.flatMap fun p =>
        (move p).filter fun q => p.column < q.column || count < least)
      iterate move byGroups least most fuel (count + 1) next ++ here

end Place

/-- Whether one character matches an expression for one. -/
def single? (fold : Bool) : Regex → Option (Char → Bool)
  | .exact c => some (same fold c)
  | .anyOne => some fun _ => true
  | .choice s => some fun c => s.has c || (fold && (s.has c.toLower || s.has c.toUpper))
  | _ => none

/-- The places at which a match from a place can end, the farthest first. -/
def ends (fold byGroups : Bool) : Regex → Place → List Place
  | .empty, p => [p]
  | .exact c, p => p.step (same fold c)
  | .anyOne, p => p.step fun _ => true
  | .choice s, p => p.step fun c => s.has c || (fold && (s.has c.toLower || s.has c.toUpper))
  | .lineStart, p => if p.column = 0 then [p] else []
  | .lineEnd, p => if p.after.isEmpty then [p] else []
  | .pieceStart, p => if p.before.all (· = '\n') then [p] else []
  | .pieceEnd, p => if p.after.head?.all (· = '\n') then [p] else []
  | .boundary inside, p =>
    if (p.before.any isWordChar != p.after.head?.any isWordChar) != inside then [p] else []
  | .wordStart, p => if ! p.before.any isWordChar && p.after.head?.any isWordChar then [p] else []
  | .wordEnd, p => if p.before.any isWordChar && ! p.after.head?.any isWordChar then [p] else []
  | .group n r, p => (ends fold byGroups r p).map fun q =>
      { q with groups := (n, p.textTo q) :: q.groups.filter (·.1 ≠ n) }
  | .again n, p => match p.groups.lookup n with
    | some text => p.literally fold text
    | none => []
  | .both a b, p =>
    match ends fold byGroups a p with
    | [q] => ends fold byGroups b q
    | qs => Place.tidy byGroups (qs.flatMap (ends fold byGroups b))
  | .either a b, p => Place.tidy byGroups (ends fold byGroups a p ++ ends fold byGroups b p)
  | .times r least most, p =>
    match single? fold r with
    | some f => p.run f least most (p.after.length + 1) 0 []
    | none => Place.tidy byGroups
        (Place.iterate (ends fold byGroups r) byGroups least most (p.after.length + least + 1) 0 [p])

/-- The first match from a place on: where it starts and where it ends. -/
def searchFrom (fold byGroups : Bool) (r : Regex) : Nat → Place → Option (Place × Place)
  | 0, _ => none
  | fuel + 1, p =>
    match ends fold byGroups r p with
    | q :: _ => some (p, q)
    | [] =>
      match p.after with
      | c :: after => searchFrom fold byGroups r fuel (p.advance c after)
      | [] => none

/-- Whether a match can only start where a line does, or might as well. -/
def startsAnywhere : Regex → Bool
  | .lineStart => true
  | .both .empty b => b.startsAnywhere
  | .both (.times .anyOne 0 none) _ => true
  | .both a _ => a.startsAnywhere
  | .group _ r => r.startsAnywhere
  | _ => false

/-- The first match from a place on: where it starts and where it ends. -/
def search (fold : Bool) (r : Regex) (p : Place) : Option (Place × Place) :=
  searchFrom fold r.hasAgain r (if r.startsAnywhere && p.column = 0 then 1 else p.after.length + 1) p

def start (line : String) : Place := ⟨0, none, line.toList, []⟩

/-- Whether an expression matches somewhere in a line. -/
def isIn (fold : Bool) (r : Regex) (line : String) : Bool := (search fold r (start line)).isSome

/-- Where an expression that matches at the start of a line ends. -/
def atStart (fold : Bool) (r : Regex) (line : String) : Option Place :=
  (ends fold r.hasAgain r (start line)).head?

/-- All matches in a line, from left to right, without empty ones; each with its place. -/
def findAll (fold : Bool) (r : Regex) : Nat → Place → List (Nat × String)
  | 0, _ => []
  | fuel + 1, p =>
    match search fold r p with
    | none => []
    | some (a, b) =>
      if a.column = b.column then
        match b.after with
        | c :: after => findAll fold r fuel { b.advance c after with groups := [] }
        | [] => []
      else (a.column, String.ofList (a.textTo b)) :: findAll fold r fuel { b with groups := [] }

end Regex

end Flowline.Shell
