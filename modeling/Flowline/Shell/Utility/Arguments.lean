import Flowline.Shell.Stream

/-!
# Arguments of utilities

The options among the arguments of a program of the system, what such a program says when it cannot make
sense of them, and how it writes the names of files in its messages.
-/

namespace Flowline.Shell

/-! ## Names in messages -/

namespace Quotation

def isPrintable (c : Char) : Bool := ' ' ≤ c && c ≤ '~'

/-- Whether a character calls for quotes at a position in a name of some length. -/
def isSpecial (size : Nat) (x : Char × Nat) : Bool :=
  let (c, i) := x
  ! isPrintable c || " !\"$&'()*;<=>?[\\^\x60|:".toList.contains c || ((c = '#' || c = '~') && i = 0) ||
    ((c = '\x7b' || c = '\x7d') && size = 1)

/-- Whether a character means the same between double quotes. -/
def isPlainInDouble (c : Char) : Bool := ! "!\"$&()*;<=>?[\\^\x60|".toList.contains c

def escape (c : Char) : String :=
  match c with
  | '\x07' => "\\a"
  | '\x08' => "\\b"
  | '\x0c' => "\\f"
  | '\n' => "\\n"
  | '\r' => "\\r"
  | '\t' => "\\t"
  | '\x0b' => "\\v"
  | c =>
    let digits := Nat.toDigits 8 c.toNat
    "\\" ++ String.ofList (List.replicate (3 - digits.length) '0' ++ digits)

/-- The characters of a name between single quotes; `escaped` says that escapes stand before them. -/
def single : Bool → List Char → String
  | _, [] => "'"
  | escaped, c :: cs =>
    if isPrintable c then
      (if escaped then "''" else "") ++ (if c = '\'' then "'\\''" else String.ofList [c]) ++ single false cs
    else (if escaped then "" else "'$'") ++ escape c ++ single true cs

/-- A name in quotes. -/
def always (s : String) : String :=
  let cs := s.toList
  if cs.contains '\'' && cs.all fun c => isPrintable c && isPlainInDouble c then "\"" ++ s ++ "\""
  else "'" ++ single false cs

/-- A name in quotes if it needs them. -/
def whereNeeded (s : String) : String :=
  if s = "" || (s.toList.zip (List.range s.length)).any (isSpecial s.length) then always s else s

end Quotation

/-! ## Options -/

/-- The arguments of a utility: its options, each with its argument if it takes one, and the rest. -/
structure Arguments where
  flags : List (Char × String)
  operands : List String

namespace Arguments

def has (a : Arguments) (c : Char) : Bool := a.flags.any (·.1 = c)

/-- The argument of the last option of a letter. -/
def get? (a : Arguments) (c : Char) : Option String := a.flags.reverse.lookup c

def all (a : Arguments) (c : Char) : List String := (a.flags.filter (·.1 = c)).map Prod.snd

/-- The last option among some letters. -/
def last? (a : Arguments) (cs : List Char) : Option Char :=
  (a.flags.reverse.find? fun f => cs.contains f.1).map Prod.fst

end Arguments

/-- What an option is followed by. -/
inductive Follows
  | nothing
  | argument
  /-- An argument that is written together with it or not at all. -/
  | perhaps
  deriving DecidableEq

/-- The options of a utility. -/
structure Usage where
  /-- The letters, each with a colon after it if it takes an argument and two if it may take one. -/
  letters : String
  /-- The long names of letters; a letter that cannot be written stands for a long name alone. -/
  names : List (String × Char) := []
  /-- Options come before all other arguments. -/
  inFront : Bool := false

namespace Usage

/-- What follows a letter among some, if it is there. -/
def follows? (c : Char) : List Char → Option Follows
  | [] => none
  | d :: ':' :: ':' :: rest => if c = d then some .perhaps else follows? c rest
  | d :: ':' :: rest => if c = d then some .argument else follows? c rest
  | d :: rest => if c = d then some .nothing else follows? c rest

/-- The options in the letters of one argument, and the other arguments that are left. -/
def cluster (letters : List Char) : List Char → List String → Except String (List (Char × String) × List String)
  | [], args => .ok ([], args)
  | c :: cs, args =>
    match if c = ':' then none else follows? c letters with
    | none => .error ("invalid option -- '" ++ String.ofList [c] ++ "'")
    | some .nothing => do
      let (found, args) ← cluster letters cs args
      return ((c, "") :: found, args)
    | some .perhaps => .ok ([(c, String.ofList cs)], args)
    | some .argument =>
      if ! cs.isEmpty then .ok ([(c, String.ofList cs)], args)
      else
        match args with
        | a :: args => .ok ([(c, a)], args)
        | [] => .error ("option requires an argument -- '" ++ String.ofList [c] ++ "'")

/-- The option with a long name, perhaps with a value behind an equals sign. -/
def long (u : Usage) (text : String) (args : List String) : Except String ((Char × String) × List String) := do
  let name := Text.before '=' text
  let value? := if name.length < text.length then some (String.ofList (text.toList.drop (name.length + 1))) else none
  let exact := u.names.filter (·.1 = name)
  let near := if exact.isEmpty then u.names.filter fun (n, _) => name.toList.isPrefixOf n.toList else exact
  match near with
  | [] => throw ("unrecognized option '--" ++ name ++ "'")
  | (full, c) :: others =>
    if others.any (·.2 ≠ c) then
      throw ("option '--" ++ text ++ "' is ambiguous; possibilities:" ++
        String.join (near.map fun (n, _) => " '--" ++ n ++ "'"))
    match (follows? c u.letters.toList).getD .nothing, value?, args with
    | .nothing, some _, _ => throw ("option '--" ++ full ++ "' doesn't allow an argument")
    | .argument, none, [] => throw ("option '--" ++ full ++ "' requires an argument")
    | .argument, none, a :: args => return ((c, a), args)
    | _, v, args => return ((c, v.getD ""), args)

/-- The options among some arguments and the other arguments. -/
def readFrom (u : Usage) : Nat → List String → Except String Arguments
  | 0, args => .ok ⟨[], args⟩
  | _, [] => .ok ⟨[], []⟩
  | fuel + 1, arg :: args => do
    match arg.toList with
    | ['-', '-'] => return ⟨[], args⟩
    | '-' :: '-' :: name =>
      let (found, args) ← u.long (String.ofList name) args
      let a ← u.readFrom fuel args
      return ⟨found :: a.flags, a.operands⟩
    | '-' :: c :: cs =>
      let (found, args) ← cluster u.letters.toList (c :: cs) args
      let a ← u.readFrom fuel args
      return ⟨found ++ a.flags, a.operands⟩
    | _ =>
      if u.inFront then return ⟨[], arg :: args⟩
      let a ← u.readFrom fuel args
      return ⟨a.flags, arg :: a.operands⟩

def read (u : Usage) (args : List String) : Except String Arguments := u.readFrom (args.length + 1) args

end Usage

/-! ## Messages -/

namespace Exec

/-- A message of a program that comes before what has been printed and not been written yet. -/
def interject (message : String) : Exec Unit := do
  tell 2 ((← get).name ++ ": " ++ message ++ "\n")

/-- A message of a program, after all that has been printed. -/
def complain (message : String) : Exec Unit := do
  flush
  tell 2 ((← get).name ++ ": " ++ message ++ "\n")

/-- Notes that something has gone wrong. -/
def failWith (n : Nat) : Exec Unit := modify fun p => { p with status := max p.status n }

/-- Says where help can be found. -/
def offerHelp : Exec Unit := do
  let p ← get
  tell 2 ("Try '" ++ p.name ++ " --help' for more information.\n")

/-- Ends a program that has been called in a wrong way. -/
def misuse (message : String) (code : Nat) : Exec Unit := do
  complain message
  offerHelp
  status code

/-- Runs a program with its arguments taken apart. -/
def withArguments (u : Usage) (code : Nat) (args : List String) (run : Arguments → Exec Unit) : Exec Unit := do
  match u.read args with
  | .ok a =>
    status 0
    run a
  | .error message => misuse message code

end Exec

end Flowline.Shell
