import Flowline.Shell.Utility.Input

/-!
# Surroundings

What a process can ask about itself, its user and the system: `printenv`, `pwd`, `tty`, `uname`, `id` and
their like.
-/

namespace Flowline.Shell.Exec

def printenv (args : List String) : Exec Unit :=
  withArguments { letters := "0", names := [("null", '0')], inFront := true } 2 args fun a => do
    let env := (← get).environment
    let stop := if a.has '0' then "\x00" else "\n"
    if a.operands.isEmpty then print (String.join (env.map fun (k, v) => k ++ "=" ++ v ++ stop))
    else
      for name in a.operands do
        let values := env.filter (·.1 = name)
        print (String.join (values.map fun (_, v) => v ++ stop))
        if values.isEmpty then failWith 1

def pwdProgram (args : List String) : Exec Unit :=
  withArguments { letters := "LP", names := [("logical", 'L'), ("physical", 'P')] } 1 args fun a => do
    let p ← get
    if ! a.operands.isEmpty then complain "ignoring non-option arguments"
    let shown := match if a.last? ['L', 'P'] = some 'L' then p.value? "PWD" else none with
      | some d => if (p.logical = d) then d else p.directory
      | none => p.directory
    print (shown ++ "\n")

def tty (args : List String) : Exec Unit :=
  withArguments { letters := "s", names := [("silent", 's'), ("quiet", 's')] } 2 args fun a => do
    if ! a.has 's' then print "not a tty\n"
    status 1

/-- What the system is called, part by part. -/
def systemNames : List (Char × String) := [('s', "Linux"), ('n', "localhost"), ('r', "6.1.0"), ('v', "#1 SMP"),
  ('m', "x86_64"), ('o', "GNU/Linux")]

def uname (args : List String) : Exec Unit :=
  let names := [("all", 'a'), ("kernel-name", 's'), ("nodename", 'n'), ("kernel-release", 'r'),
    ("kernel-version", 'v'), ("machine", 'm'), ("processor", 'p'), ("hardware-platform", 'i'), ("operating-system", 'o')]
  withArguments { letters := "asnrvmpio", names } 1 args fun a => do
    match a.operands with
    | o :: _ => misuse ("extra operand " ++ Quotation.always o) 1
    | [] =>
      let isShown (c : Char) : Bool := a.has 'a' || a.has c || (a.flags.isEmpty && c = 's')
      let shown := (systemNames.filter fun (c, _) => isShown c).map Prod.snd
      let unknown := (if a.has 'p' then ["unknown"] else []) ++ if a.has 'i' then ["unknown"] else []
      print (String.intercalate " " (shown.take 5 ++ unknown ++ shown.drop 5) ++ "\n")

/-- A program without operands that writes one line. -/
def oneLine (line : String) (args : List String) : Exec Unit :=
  withArguments { letters := "" } 1 args fun a => do
    match a.operands with
    | o :: _ => misuse ("extra operand " ++ Quotation.always o) 1
    | [] => print (line ++ "\n")

def logname (args : List String) : Exec Unit :=
  withArguments { letters := "" } 1 args fun a => do
    match a.operands with
    | o :: _ => misuse ("extra operand " ++ Quotation.always o) 1
    | [] =>
      complain "no login name"
      status 1

def identity (args : List String) : Exec Unit :=
  let names := [("user", 'u'), ("group", 'g'), ("groups", 'G'), ("name", 'n'), ("real", 'r'), ("zero", 'z')]
  withArguments { letters := "ugGnrza", names } 1 args fun a => do
    match a.operands.find? (· ≠ "root") with
    | some user =>
      complain (Quotation.always user ++ ": no such user")
      status 1
    | none =>
      let asked := a.has 'u' || a.has 'g' || a.has 'G'
      if (a.has 'n' || a.has 'r') && ! asked then
        complain "printing only names or real IDs requires -u, -g, or -G"
        status 1
      else print (if ! asked then "uid=0(root) gid=0(root) groups=0(root)\n"
        else if a.has 'n' then "root\n" else "0\n")

end Flowline.Shell.Exec
