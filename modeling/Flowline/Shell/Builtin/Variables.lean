import Flowline.Shell.Builtin.Options

/-!
# Commands on variables and options
-/

namespace Flowline.Shell.Exec

/-- Lists variables, each after some text. -/
def listVars (start : String) (vars : List (String × Var)) : Exec Unit :=
  print (String.join (vars.map fun (x, v) =>
    start ++ x ++ (match v.value with
      | some value => "=" ++ inQuotes value
      | none => "") ++ "\n"))

/-- The name and the value in an argument. -/
def assignmentOf (arg : String) : Exec (String × Option String) := do
  let name := Text.before '=' arg
  if ! isName name then abort (name ++ ": bad variable name")
  return (name, if name.length = arg.length then none
    else some (String.ofList (arg.toList.drop (name.length + 1))))

/-- `export` and `readonly`. -/
def mark (command : String) (args : List String) : Exec Unit := do
  let exporting := command = "export"
  let (flags, args) ← splitOptions "p" args
  if args.isEmpty || ! flags.isEmpty then
    let vars := (← get).vars.filter fun (_, v) => if exporting then v.exported else v.readonly
    listVars (command ++ " ") vars
  else
    for a in args do
      let (x, v) ← assignmentOf a
      declare x v exporting (! exporting)
  status 0

def local_ (args : List String) : Exec Unit := do
  if (← get).calls = 0 then abort "not in a function"
  for a in args do
    if a = "-" then save "-"
    else
      let (x, v) ← assignmentOf a
      save x
      if v.isSome then declare x v false false
  status 0

def unsetAll (args : List String) : Exec Unit := do
  let (flags, args) ← splitOptions "vf" args
  for x in args do
    if (flags.getLast?.map Prod.fst) = some 'f' then
      modify fun p => { p with functions := p.functions.filter (·.1 ≠ x) }
    else
      if ! isName x then abort (Text.before '=' x ++ ": bad variable name")
      unset x
  status 0

/-! ## Options of the shell -/

/-- Turns an option on or off. -/
def setFlag (on : Bool) (c : Char) : Exec Unit := do
  if ! optionLetters.contains c then abort ("Illegal option -" ++ String.ofList [c])
  modify fun p => { p with flags := (if on then [c] else []) ++ p.flags.filter (· ≠ c) }

/-- Turns the option with a name on or off. -/
def setNamed (on : Bool) (name : String) : Exec Unit := do
  match shellOptions.find? (·.2 = name) with
  | some (some c, _) => setFlag on c
  | some (none, _) => return
  | none => abort ("Illegal option -o " ++ name)

/-- Lists the options, as commands if `again`. -/
def listFlags (again : Bool) : Exec Unit := do
  let p ← get
  let isOn (c : Option Char) : Bool := c.any p.flags.contains
  if again then
    print (String.join (shellOptions.map fun (c, name) => "set " ++ (if isOn c then "-o " else "+o ") ++ name ++ "\n"))
  else
    print ("Current option settings\n" ++ String.join (shellOptions.map fun (c, name) =>
      name ++ String.ofList (List.replicate (16 - name.length) ' ') ++ (if isOn c then "on\n" else "off\n")))

/-- The letters of an argument that turn options on or off; what is left of the other arguments. -/
def setLetters (on : Bool) : List Char → List String → Exec (List String)
  | [], args => return args
  | 'o' :: cs, args => do
    match args with
    | [] =>
      listFlags (! on)
      setLetters on cs []
    | name :: args =>
      setNamed on name
      setLetters on cs args
  | c :: cs, args => do
    setFlag on c
    setLetters on cs args

/-- Turns options on and off as the first of some arguments say; the parameters that are to be set. -/
def setOptions : Nat → List String → Exec (Option (List String))
  | 0, _ => return none
  | _, [] => return none
  | fuel + 1, a :: args => do
    match a.toList with
    | ['-'] =>
      modify fun p => { p with flags := p.flags.filter fun c => c ≠ 'x' && c ≠ 'v' }
      return if args.isEmpty then none else some args
    | ['-', '-'] => return some args
    | '-' :: cs => setOptions fuel (← setLetters true cs args)
    | '+' :: cs => setOptions fuel (← setLetters false cs args)
    | _ => return some (a :: args)

/-- Turns the control of jobs off again, for which a shell needs a terminal; a child of the shell does not
look for one. -/
def disownTerminal : Exec Unit := do
  let p ← get
  if p.hasFlag 'm' && p.shell = p.pid then
    warn "can't access tty; job control turned off"
    modify fun p => { p with flags := p.flags.filter (· ≠ 'm') }

def setAll (args : List String) : Exec Unit := do
  if args.isEmpty then listVars "" ((← get).vars.filter fun (_, v) => v.value.isSome)
  else
    match ← setOptions (args.length + 1) args with
    | some params => modify fun p => { p with args := params, options := (1, none) }
    | none => pure ()
    disownTerminal
  status 0

def shift (args : List String) : Exec Unit := do
  let n ← match args with
    | [] => pure 1
    | a :: _ => number a
  let p ← get
  if p.args.length < n then abort "can't shift that many"
  set { p with args := p.args.drop n, options := (1, none), status := 0 }

end Flowline.Shell.Exec
