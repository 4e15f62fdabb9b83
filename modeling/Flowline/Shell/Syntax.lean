/-!
# Shell scripts

The commands of a script for the command interpreter `sh`, and the words that they are made of.
-/

namespace Flowline.Shell

/-- What to do about the value of a parameter. -/
inductive Modifier
  /-- `${x-w}`: another value if there is none. -/
  | default
  /-- `${x=w}`: the same, and it is assigned. -/
  | assign
  /-- `${x?w}`: a message and the end of the script if there is none. -/
  | require
  /-- `${x+w}`: another value if there is one. -/
  | replace
  /-- `${x%w}`, `${x%%w}`: without a suffix that matches. -/
  | cutSuffix (longest : Bool)
  /-- `${x#w}`, `${x##w}`: without something in front that matches. -/
  | cutFront (longest : Bool)
  deriving DecidableEq

/-- Whether something is cut off, so that the word is a pattern. -/
def Modifier.cuts : Modifier → Bool
  | cutSuffix _ => true
  | cutFront _ => true
  | _ => false

/-- How a file descriptor is redirected. -/
inductive RedirectKind
  | read
  | write
  /-- Writes even to a file that is to be kept. -/
  | clobber
  | append
  /-- Reads and writes. -/
  | update
  /-- As another descriptor. -/
  | duplicate
  /-- From text in the script. -/
  | here
  deriving DecidableEq

mutual

/-- A part of a word; quoted parts are not split into fields. -/
inductive Part
  | text (s : String) (quoted : Bool)
  | param (name : String) (quoted : Bool)
  /-- With `colon`, an empty value counts as none. -/
  | modified (name : String) (colon : Bool) (how : Modifier) (word : List Part) (quoted : Bool)
  | length (name : String) (quoted : Bool)
  | output (body : Command) (quoted : Bool)
  | arithmetic (expr : List Part) (quoted : Bool)
  /-- What stands in the braces of a parameter makes no sense. -/
  | bad

inductive Redirect
  | mk (fd : Nat) (kind : RedirectKind) (target : List Part)

/-- A command; the numbers are those of the lines where it stands. -/
inductive Command
  | empty
  | simple (line : Nat) (assignments : List (String × List Part)) (words : List (List Part))
      (redirects : List Redirect)
  | pipeline (stages : List Command) (background : Bool)
  | negated (body : Command)
  | both (first second : Command)
  | either (first second : Command)
  | sequence (first second : Command)
  | background (line : Nat) (body : Command) (redirects : List Redirect)
  | subshell (line : Nat) (body : Command) (redirects : List Redirect)
  | redirected (line : Nat) (body : Command) (redirects : List Redirect)
  /-- Without another branch, `no` is empty. -/
  | choose (test yes no : Command)
  /-- Repeated while the test holds, or fails if `negated`. -/
  | loop (negated : Bool) (test body : Command)
  | each (line : Nat) (name : String) (words : Option (List (List Part))) (body : Command)
  | select (line : Nat) (word : List Part) (branches : List (List (List Part) × Command))
  | define (name : String) (body : Command)

end

instance : Inhabited Command := ⟨.empty⟩

def Command.isEmpty : Command → Bool
  | empty => true
  | _ => false

end Flowline.Shell
