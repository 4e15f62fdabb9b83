import Flowline.Shell.Files
import Flowline.Shell.Pattern

/-!
# Expanded words

A word is expanded to bits: characters that know whether they were quoted and whether fields may be
cut there.  From the bits come the fields of a command, a single text or a pattern.
-/

namespace Flowline.Shell

inductive Bit
  /-- A character.  `split` says that it comes from an expansion without quotes. -/
  | char (c : Char) (quoted split : Bool)
  /-- The end of a positional parameter, with another to follow. -/
  | cut
  /-- Quotes stand here, so that there is a field even if nothing is in it. -/
  | quotes
  /-- All positional parameters in quotes, of which there are none. -/
  | nothing

namespace Bit

def ofText (s : String) (quoted split : Bool) : List Bit := s.toList.map (.char · quoted split)

/-- The characters of a word, quoted or not. -/
def chars (bits : List Bit) : List (Char × Bool) :=
  bits.filterMap fun
    | .char c quoted _ => some (c, quoted)
    | .cut => some (' ', true)
    | _ => none

/-- The text of a word that is not cut into fields. -/
def text (bits : List Bit) : String := String.ofList ((chars bits).map Prod.fst)

/-- The same bits in quotes. -/
def quote (bits : List Bit) : List Bit :=
  bits.map fun
    | .char c _ _ => .char c true false
    | b => b

/-! ## Fields -/

/-- The fields found so far, last first, and the one that is being read, if any, last character first. -/
structure Fields where
  done : List (List (Char × Bool))
  current : Option (List (Char × Bool))

/-- Ends the field that is being read; `always` makes an empty one if there is none. -/
def Fields.close (f : Fields) (always : Bool) : Fields :=
  match f.current with
  | some cs => ⟨cs.reverse :: f.done, none⟩
  | none => if always then ⟨[] :: f.done, none⟩ else f

def isSeparatorSpace (c : Char) : Bool := c = ' ' || c = '\t' || c = '\n'

/-- Adds one bit.  The flag says that blanks have ended a field, so that a separator
right after them ends no other. -/
def Fields.add (separators : List Char) (acc : Fields × Bool) (b : Bit) : Fields × Bool :=
  let (f, ended) := acc
  match b with
  | .char c quoted split =>
    if split && separators.contains c then
      if isSeparatorSpace c then (f.close false, ended || f.current.isSome)
      else (f.close (! ended), false)
    else (⟨f.done, some ((c, quoted) :: f.current.getD [])⟩, false)
  | .cut => (f.close false, false)
  | .quotes => (⟨f.done, some (f.current.getD [])⟩, false)
  | .nothing => (f, ended)

/-- The fields that bits are cut into at the separators. -/
def fields (separators : String) (bits : List Bit) : List (List (Char × Bool)) :=
  let absent := bits.any fun
    | .nothing => true
    | _ => false
  let bits := if absent then bits.filter fun
      | .quotes => false
      | _ => true
    else bits
  ((bits.foldl (Fields.add separators.toList) (⟨[], none⟩, false)).1.close false).done.reverse

end Bit

/-! ## File names -/

namespace Glob

def text (word : List (Char × Bool)) : String := String.ofList (word.map Prod.fst)

/-- The parts of a word between slashes. -/
def parts : List (Char × Bool) → List (List (Char × Bool))
  | [] => [[]]
  | (c, q) :: cs =>
    if c = '/' then [] :: parts cs
    else match parts cs with
      | [] => [[(c, q)]]
      | w :: ws => ((c, q) :: w) :: ws

/-- A part of a word as a pattern, with its text, and whether it matches hidden names. -/
structure Segment where
  pattern : Pattern
  text : String
  hidden : Bool

def Segment.ofWord (word : List (Char × Bool)) : Segment where
  pattern := Pattern.ofWord word
  text := Glob.text (resolveEscapes word)
  hidden := (resolveEscapes word).head?.any (·.1 = '.')

/-- The paths that match some segments, after a path that has been matched. -/
def matching (fs : Files) (directory : String) : String → List Segment → List String
  | found, [] => [found]
  | found, [last] =>
    if last.pattern.isActive then candidates found last
    else
      let path := found ++ last.text
      match fs.find false directory path with
      | .ok _ => [path]
      | .error _ => []
  | found, s :: rest =>
    if s.pattern.isActive then
      (candidates found s).flatMap fun p => matching fs directory (p ++ "/") rest
    else matching fs directory (found ++ s.text ++ "/") rest
where
  /-- The paths that one segment adds. -/
  candidates (found : String) (s : Segment) : List String :=
    match fs.find true directory (if found = "" then "." else found) with
    | .error _ => []
    | .ok name =>
      if ! fs.isDirectory name then []
      else
        let names := (if s.hidden then [".", ".."] else []) ++ fs.entries name
        (names.filter fun n => (s.hidden || n.toList.head? ≠ some '.') && s.pattern.matchesAll n.toList).map
          (found ++ ·)

/-- The file names that a field stands for, itself if there are none. -/
def expand (fs : Files) (directory : String) (word : List (Char × Bool)) : List String :=
  let has (c : Char) : Bool := word.any fun (x, quoted) => ! quoted && x = c
  if ! (has '*' || has '?' || (has '[' && has ']')) then [text word]
  else
    let segments := (parts word).map Segment.ofWord
    if ! segments.any (·.pattern.isActive) then [text word]
    else
      match matching fs directory "" segments with
      | [] => [text word]
      | found => found.mergeSort (· ≤ ·)

end Glob

end Flowline.Shell
