import Flowline.Shell.Reading
import Flowline.Shell.Stream

/-!
# Variables and messages

What a shell says when something goes wrong, and the variables, parameters and options that it keeps.
-/

namespace Flowline.Shell

/-- Where programs are looked for unless `PATH` says otherwise. -/
def defaultPath : String := "/usr/local/sbin:/usr/local/bin:/usr/sbin:/usr/bin:/sbin:/bin"

/-- The options of a shell: the letter, if there is one, and the name of each. -/
def shellOptions : List (Option Char × String) := [(some 'e', "errexit"), (some 'f', "noglob"),
  (some 'I', "ignoreeof"), (some 'i', "interactive"), (some 'm', "monitor"), (some 'n', "noexec"),
  (some 's', "stdin"), (some 'x', "xtrace"), (some 'v', "verbose"), (some 'V', "vi"), (some 'E', "emacs"),
  (some 'C', "noclobber"), (some 'a', "allexport"), (some 'b', "notify"), (some 'u', "nounset"),
  (some 'p', "privileged"), (none, "nolog"), (none, "debug")]

def optionLetters : List Char := shellOptions.filterMap Prod.fst

/-- The variables of a new shell with an environment. -/
def initialVars (environment : List (String × String)) (directory : String) (parent : Nat) : Table Var :=
  let given : Table Var := environment.foldl (fun vars (k, v) =>
    if isName k then vars.insert k ⟨some v, true, false⟩ else vars) []
  let plain (vars : Table Var) (k v : String) : Table Var :=
    if vars.has k then vars else vars.insert k ⟨some v, false, false⟩
  let vars := plain (plain (plain (plain given "PATH" defaultPath) "PS1" "# ") "PS2" "> ") "PS4" "+ "
  let own (vars : Table Var) (k v : String) : Table Var := vars.insert k ⟨some v, false, false⟩
  let vars := own (own (own vars "OPTIND" "1") "PPID" (toString parent)) "IFS" " \t\n"
  vars.insert "PWD" ⟨some directory, true, false⟩

/-- The place of a name among 39 that decides in which order programs see the variables. -/
def bucket (name : String) : Nat :=
  (name.toList.foldl (fun n c => n + c.toNat) (16 * (name.toList.head?.map Char.toNat).getD 0)) % 39

/-- The variables that programs are given, in the order in which they see them. -/
def Process.exported (p : Process) : List (String × String) :=
  p.environment.mergeSort fun a b => bucket a.1 ≤ bucket b.1

namespace Exec

/-! ## Messages -/

/-- What the messages of a shell begin with. -/
def messageStart (p : Process) : String :=
  p.name ++ ": " ++ toString p.line ++ ": " ++ (p.command.map (· ++ ": ")).getD ""

/-- A message of the shell. -/
def warn (message : String) : Exec Unit := do
  tell 2 (messageStart (← get) ++ message ++ "\n")

/-- A message of the shell about an error that ends a script unless something stands in its way. -/
def abort {α : Type} (message : String) : Exec α := do
  warn message
  status 2
  halt .failed

/-- The number that a text denotes; blanks and a sign may stand around it. -/
def number (s : String) : Exec Nat := do
  let cs := (s.toList.dropWhile isSpace).reverse.dropWhile isSpace
  match integer? (String.ofList cs.reverse) with
  | some n => if 0 ≤ n && n < 0x80000000 then return n.toNat else abort ("Illegal number: " ++ s)
  | none => abort ("Illegal number: " ++ s)

/-! ## Variables -/

/-- Has a new value of a variable take effect. -/
def react (name value : String) : Exec Unit := do
  if name = "OPTIND" then
    let n ← number value
    modify fun p => { p with options := (max n 1, none) }
  else if name = "PATH" then modify fun p => { p with hashed := [] }

/-- Sets a variable and gives it properties that it may not have yet. -/
def declare (name : String) (value : Option String) (exported readonly : Bool) : Exec Unit := do
  let p ← get
  let old := p.vars.get? name
  if old.any Var.readonly && value.isSome then abort (name ++ ": is read only")
  match value with
  | some v => react name v
  | none => pure ()
  let var : Var := ⟨value.or (old.bind Var.value),
    old.any Var.exported || exported || (p.hasFlag 'a' && value.isSome), old.any Var.readonly || readonly⟩
  modify fun p => { p with vars := p.vars.insert name var }

def assign (name value : String) : Exec Unit := declare name (some value) false false

/-- Removes a variable. -/
def unset (name : String) : Exec Unit := do
  let p ← get
  if (p.vars.get? name).any Var.readonly then abort (name ++ ": is read only")
  set { p with vars := p.vars.erase name }

/-- Sets a variable to a number. -/
def assignNumber (name : String) (n : Int) : Exec Unit := assign name (toString n)

/-! ## Functions and their variables -/

/-- Has a variable restored when the current function returns. -/
def save (name : String) : Exec Unit :=
  modify fun p =>
    let saved := if name = "-" then Saved.flags p.flags else .var name (p.vars.get? name)
    { p with scopes := match p.scopes with
        | [] => [[saved]]
        | s :: rest => (saved :: s) :: rest }

/-- Puts back what was saved. -/
def restore (p : Process) : Saved → Process
  | .flags old => { p with flags := old }
  | .var name old =>
    let p := match old with
      | some v => { p with vars := p.vars.insert name v }
      | none => { p with vars := p.vars.erase name }
    if name = "OPTIND" then
      { p with options := (max ((((p.value? name).getD "1").toNat?).getD 1) 1, none) }
    else p

/-- Runs a part with variables of its own. -/
def withLocals {α : Type} (m : Exec α) : Exec α := do
  modify fun p => { p with scopes := [] :: p.scopes }
  ensuring m fun p =>
    match p.scopes with
    | [] => p
    | s :: rest => s.foldl restore { p with scopes := rest }

/-! ## Parameters -/

/-- The letters of the options that are on. -/
def flagText (p : Process) : String := String.ofList (optionLetters.reverse.filter p.flags.contains)

/-- The value of a parameter, if it is set. -/
def param? (p : Process) (name : String) : Option String :=
  match name with
  | "?" => some (toString p.status)
  | "#" => some (toString p.args.length)
  | "$" => some (toString p.shell)
  | "!" => p.lastJob.map toString
  | "-" => some (flagText p)
  | "0" => some p.name
  | name =>
    if name.toList.head?.any Char.isDigit then
      match name.toNat? with
      | some 0 => some p.name
      | some n => p.args[n - 1]?
      | none => none
    else p.value? name

/-- What separates fields. -/
def separators (p : Process) : String := (p.value? "IFS").getD " \t\n"

/-- What stands between positional parameters that are put together. -/
def glue (p : Process) : String :=
  match p.value? "IFS" with
  | none => " "
  | some s => String.ofList (s.toList.take 1)

end Exec

end Flowline.Shell
