import Flowline.Shell.Builtin.Options
import Flowline.Shell.Permissions

/-!
# Commands on the surroundings of a shell

The directory that it is in, the permissions of new files, and limits.
-/

namespace Flowline.Shell.Exec

/-! ## Directories -/

/-- Goes to a directory, whose name takes links as they are unless `physical`; false if that is not
possible. -/
def goTo (physical : Bool) (target : String) : Exec Bool := do
  let p ← get
  let fs ← files
  -- two slashes at the start, no more and no fewer, are kept
  let isDouble (path : String) : Bool := (path.toList.takeWhile (· = '/')).length = 2
  let doubled := isDouble target || (target.toList.head? ≠ some '/' && isDouble p.logical)
  let logical := (if doubled then "/" else "") ++ Files.resolve p.logical target
  match fs.find true p.directory (if physical then target else logical) with
  | .error _ => return false
  | .ok name =>
    if ! fs.isDirectory name then return false
    let old := p.logical
    let new := if physical then name else logical
    set { p with directory := name, logical := new }
    declare "OLDPWD" (some old) true false
    declare "PWD" (some new) true false
    return true

/-- Goes to the first of some places where there is a directory; whether its name is to be shown. -/
def goAlong (physical : Bool) (target : String) : List String → Exec (Option Bool)
  | [] => return none
  | place :: rest => do
    let p ← get
    let path := if place = "" then target else place ++ "/" ++ target
    if ((← files).lookup? p.directory path).any Node.isDirectory then
      if ← goTo physical path then return some (place ≠ "") else return none
    else goAlong physical target rest

def cd (args : List String) : Exec Unit := do
  let (flags, args) ← splitOptions "LP" args
  let physical := (flags.getLast?.map Prod.fst) = some 'P'
  let p ← get
  let (target, back) := match args with
    | [] => ((p.value? "HOME").getD "", false)
    | "-" :: _ => ((p.value? "OLDPWD").getD "", true)
    | a :: _ => (a, false)
  let first := Text.before '/' target
  let isFixed := target.toList.head? = some '/' || first = "." || first = ".."
  let target' := if target = "" then "." else target
  let shown? ← if isFixed then do
      let fine ← goTo physical target'
      pure (if fine then some false else none)
    else do
      match ← goAlong physical target' (Text.split ':' ((p.value? "CDPATH").getD "")) with
      | some shown => pure (some shown)
      | none =>
        let fine ← goTo physical target'
        pure (if fine then some false else none)
  match shown? with
  | none => abort ("can't cd to " ++ target)
  | some shown =>
    if shown || back then print ((← get).logical ++ "\n")
    status 0

def pwd (args : List String) : Exec Unit := do
  let (flags, _) ← splitOptions "LP" args
  let p ← get
  print ((if (flags.getLast?.map Prod.fst) = some 'P' then p.directory else p.logical) ++ "\n")
  status 0

/-! ## Permissions -/

def umask (args : List String) : Exec Unit := do
  let (flags, args) ← splitOptions "S" args
  let p ← get
  match args with
  | [] =>
    if flags.isEmpty then print (Permissions.octal p.umask ++ "\n")
    else
      let kept := Nat.xor 0o777 p.umask
      print ("u=" ++ Permissions.rights (kept / 64 % 8) ++ ",g=" ++ Permissions.rights (kept / 8 % 8) ++ ",o=" ++ Permissions.rights (kept % 8) ++ "\n")
  | a :: _ =>
    if a.toList.head?.any Char.isDigit then
      match Permissions.octal? a with
      | some n => set { p with umask := Nat.land n 0o777 }
      | none => abort ("Illegal number: " ++ a)
    else
      match Permissions.apply 0 false (Nat.xor 0o777 p.umask) a with
      | some n => set { p with umask := Nat.xor 0o777 (Nat.land n 0o777) }
      | none => abort ("Illegal mode: " ++ a)
  status 0

/-! ## Limits -/

/-- The limits that are listed, each with its letter. -/
def limitNames : List (Char × String) := [
  ('t', "time(seconds)        "), ('f', "file(blocks)         "), ('d', "data(kbytes)         "),
  ('s', "stack(kbytes)        "), ('c', "coredump(blocks)     "), ('m', "memory(kbytes)       "),
  ('l', "locked memory(kbytes) "), ('p', "process              "), ('n', "nofiles              "),
  ('v', "vmemory(kbytes)      "), ('w', "locks                "), ('r', "rtprio               ")]

/-- A limit as it is shown. -/
def limitText : Option Nat → String
  | some n => toString n
  | none => "unlimited"

/-- Whether a limit is not above another one. -/
def isWithin : Option Nat → Option Nat → Bool
  | _, none => true
  | none, some _ => false
  | some m, some n => m ≤ n

/-- Sets a limit, the one in force or the one that it can be raised to, or both. -/
def setLimit (letter : Char) (soft hard : Bool) (value : Option Nat) : Exec Unit := do
  let p ← get
  let old := p.limitOf letter
  let new : Limit := ⟨if soft then value else old.soft, if hard then value else old.hard⟩
  let refused (e : OsError) : Exec Unit := abort ("error setting limit (" ++ e.text ++ ")")
  if ! isWithin new.soft new.hard then refused .invalidArgument
  else if ! isWithin new.hard old.hard then refused .notPermitted
  else set { p with limits := (letter, new) :: p.limits.filter (·.1 ≠ letter) }

def ulimit (args : List String) : Exec Unit := do
  let (flags, args) ← splitOptions "HSatfdscmlpnvwr" args
  let letters := flags.map Prod.fst
  let how := (letters.filter fun c => c = 'H' || c = 'S').getLast?
  let soft := how ≠ some 'H'
  let letter := (letters.filter fun c => ! ['H', 'S', 'a'].contains c).getLast?.getD 'f'
  let all := letters.contains 'a'
  let p ← get
  let shown (c : Char) : String :=
    let l := p.limitOf c
    limitText (if soft then l.soft else l.hard)
  match args with
  | [] =>
    if all then print (String.join (limitNames.map fun (c, name) => name ++ shown c ++ "\n"))
    else print (shown letter ++ "\n")
  | text :: rest =>
    if all || ! rest.isEmpty then abort "too many arguments"
    if text = "unlimited" then setLimit letter soft (how ≠ some 'S') none
    else if text.toList.all Char.isDigit then setLimit letter soft (how ≠ some 'S') (some (Text.digitsValue text.toList))
    else abort "bad number"
  status 0

end Flowline.Shell.Exec
