import Flowline.Shell.Builtin.Options
import Flowline.Shell.Lookup

/-!
# Commands on the names of commands

What a name stands for, and aliases.
-/

namespace Flowline.Shell.Exec

/-! ## Aliases -/

/-- The aliases in the order in which they are listed. -/
def listedAliases (p : Process) : List (String × String) :=
  p.aliases.reverse.mergeSort fun a b => bucket a.1 ≤ bucket b.1

def aliasText (a : String × String) : String := a.1 ++ "=" ++ inQuotes a.2 ++ "\n"

/-- Sets or lists some aliases; whether all that are to be listed are there. -/
def aliasEach : List String → Bool → Exec Bool
  | [], fine => return fine
  | a :: rest, fine => do
    let name := String.ofList (a.toList.take 1) ++ Text.before '=' (String.ofList (a.toList.drop 1))
    if name.length < a.length then
      let text := String.ofList (a.toList.drop (name.length + 1))
      modify fun p =>
        let replaced := p.aliases.map fun (k, v) => (k, if k = name then text else v)
        { p with aliases := if (p.aliases.lookup name).isSome then replaced else (name, text) :: p.aliases }
      aliasEach rest fine
    else
      match (← get).aliases.lookup a with
      | some text =>
        print (aliasText (a, text))
        aliasEach rest fine
      | none =>
        tell 2 ("alias: " ++ a ++ " not found\n")
        aliasEach rest false

def nameAliases (args : List String) : Exec Unit := do
  if args.isEmpty then
    print (String.join ((listedAliases (← get)).map aliasText))
    status 0
  else status (if ← aliasEach args true then 0 else 1)

/-- Removes some aliases; whether all of them are there. -/
def unaliasEach : List String → Bool → Exec Bool
  | [], fine => return fine
  | a :: rest, fine => do
    let p ← get
    if (p.aliases.lookup a).isSome then
      set { p with aliases := p.aliases.filter (·.1 ≠ a) }
      unaliasEach rest fine
    else
      tell 2 ("unalias: " ++ a ++ " not found\n")
      unaliasEach rest false

def unalias (args : List String) : Exec Unit := do
  let (flags, args) ← splitOptions "a" args
  if ! flags.isEmpty then
    modify fun p => { p with aliases := [] }
    status 0
  else status (if ← unaliasEach args true then 0 else 1)

/-! ## What names stand for -/

/-- Says what a name stands for, at length if `verbose`; the status. -/
def describe (name : String) (path : Option String) (verbose : Bool) : Exec Nat := do
  let p ← get
  let fs ← files
  let start := if verbose then name else ""
  let known (long short : String) : Exec Nat := do
    print (start ++ (if verbose then long else short) ++ "\n")
    return 0
  if keywords.contains name then known " is a shell keyword" name
  else
    match p.aliases.lookup name with
    | some text =>
      if verbose then known (" is an alias for " ++ text) ""
      else
        print ("alias " ++ aliasText (name, text))
        return 0
    | none =>
      match lookupCommand p true name with
      | .function _ => known " is a shell function" name
      | .builtin => known (" is a " ++ (if isSpecial name then "special " else "") ++ "shell builtin") name
      | .program =>
        let found := if name.toList.contains '/' then
            (fs.find true p.directory name).map fun _ => name
          else findProgram fs p.directory (path.getD (shellPath p)) name
        match found with
        | .ok full =>
          known (" is" ++ (if p.hashed.contains name then " a tracked alias for" else "") ++ " " ++ full) full
        | .error _ =>
          if verbose then print (start ++ ": not found\n")
          return 127

/-- Says of each of some names what it stands for; the status. -/
def describeEach : List String → Nat → Exec Nat
  | [], n => return n
  | x :: rest, n => do
    let m ← describe x none true
    describeEach rest (Nat.lor n m)

def type (args : List String) : Exec Unit := do
  let (_, args) ← splitOptions "" args
  status (← describeEach args 0)

/-- `command` when it runs nothing. -/
def commandInfo (args : List String) : Exec Unit := do
  let (flags, args) ← splitOptions "pvV" args
  let letters := flags.map Prod.fst
  match args with
  | x :: _ =>
    if letters.contains 'v' || letters.contains 'V' then
      status (← describe x (if letters.contains 'p' then some defaultPath else none) (letters.contains 'V'))
    else status 0
  | [] => status 0

/-! ## Programs that have been run -/

/-- Looks for some programs; whether all of them are there. -/
def hashEach : List String → Bool → Exec Bool
  | [], fine => return fine
  | x :: rest, fine => do
    let p ← get
    match lookupCommand p true x with
    | .program =>
      match findProgram (← files) p.directory (shellPath p) x with
      | .ok _ =>
        set { p with hashed := x :: p.hashed.filter (· ≠ x) }
        hashEach rest fine
      | .error e =>
        warn (x ++ ": " ++ programRefusal e)
        hashEach rest false
    | _ => hashEach rest fine

/-- Which of the rows of a table the name of a program belongs to; the rows are listed one after another. -/
def bucketOf (name : String) : Nat :=
  let codes := name.toList.map Char.toNat
  (codes.foldl (· + ·) (16 * codes.headD 0)) % 0x8000 % 31

def hash (args : List String) : Exec Unit := do
  let (flags, args) ← splitOptions "r" args
  if flags.any (·.1 = 'r') then
    modify fun p => { p with hashed := [] }
    status 0
  else if args.isEmpty then
    let p ← get
    let fs ← files
    for x in p.hashed.reverse.mergeSort fun x y => bucketOf x ≤ bucketOf y do
      match findProgram fs p.directory (shellPath p) x with
      | .ok path => print (path ++ "\n")
      | .error _ => pure ()
    status 0
  else status (if ← hashEach args true then 0 else 1)

end Flowline.Shell.Exec
