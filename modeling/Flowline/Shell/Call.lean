import Flowline.Shell.Lookup
import Flowline.Shell.Words

/-!
# Calls

What a simple command calls.  The words up to the name are expanded one by one, because the name decides how
the others are expanded, and because `command` in front of a name changes how the name is looked up.
-/

namespace Flowline.Shell

/-- The words of a simple command, expanded as far as they are needed, and what their names say. -/
structure Call where
  /-- All fields so far, `command` and its options included. -/
  shown : List String
  /-- The fields from the name on. -/
  fields : List String
  /-- The words that have not been expanded. -/
  rest : List (List Part)
  /-- The first name is that of a command whose errors end a script; nothing if it is no command of the shell. -/
  special : Option Bool
  /-- Functions count. -/
  functions : Bool
  /-- The path along which programs are looked for, if not the usual one. -/
  path : Option String
  /-- The name is that of no command of the shell or of one that takes assignments. -/
  assigns : Bool

namespace Exec

variable (capture : Command → Exec String)

/-- The fields that the first words become, up to one that becomes any, and the other words. -/
def expandFirst : List (List Part) → Exec (List String × List (List Part))
  | [] => return ([], [])
  | w :: rest => do
    match ← expandWord capture w with
    | [] => expandFirst rest
    | fields => return (fields, rest)

/-- The call with at least `n` fields, if there are so many. -/
def reach (n : Nat) (c : Call) : Exec (Option Call) := do
  if n ≤ c.fields.length then return some c
  let (fields, rest) ← expandFirst capture c.rest
  if fields.isEmpty then return none
  return some { c with shown := c.shown ++ fields, fields := c.fields ++ fields, rest }

/-- Goes past `command` and its options, of which `n` fields have been seen; without a name behind them, or
with options that ask for something else, `command` itself is called. -/
def passCommand : Nat → Nat → Option String → Call → Exec (Call × Bool)
  | 0, _, _, c => return (c, false)
  | fuel + 1, n, path, c => do
    match ← reach capture (n + 1) c with
    | none => return ({ c with rest := [] }, false)
    | some c =>
      let found (c : Call) (n : Nat) : Call × Bool :=
        ({ c with fields := c.fields.drop n, functions := false, path }, true)
      match (c.fields[n]?.getD "").toList with
      | ['-', '-'] =>
        match ← reach capture (n + 2) c with
        | none => return ({ c with rest := [] }, false)
        | some c => return found c (n + 1)
      | '-' :: letter :: letters =>
        if (letter :: letters).all (· = 'p') then passCommand fuel (n + 1) (some defaultPath) c
        else return (c, false)
      | _ => return found c n

/-- Looks at the name of a call, and at the next one after `command`. -/
def nameCall : Nat → Call → Exec Call
  | 0, c => return c
  | fuel + 1, c => do
    let name := c.fields.headD ""
    match lookupCommand (← get) c.functions name with
    | .builtin =>
      let c := { c with special := c.special.or (some (isSpecial name)), assigns := takesAssignments name }
      if name = "command" then
        let (c, goesOn) ← passCommand capture (fuel + c.rest.length + c.fields.length + 1) 1 none c
        if goesOn then nameCall fuel c else return c
      else return c
    | _ => return c

/-- Whether a word is an assignment as it stands. -/
def isAssignment (word : List Part) : Bool :=
  match word with
  | .text s false :: _ =>
    let name := Text.before '=' s
    isName name && name.length < s.length
  | _ => false

/-- Expands the words that are left. -/
def expandRest (assigns : Bool) : List (List Part) → Exec (List String)
  | [] => return []
  | w :: rest => do
    let fields ← if assigns && isAssignment w then do pure [← expandText capture .value w]
      else expandWord capture w
    return fields ++ (← expandRest assigns rest)

/-- The call that some words make, with all fields. -/
def callOf (words : List (List Part)) : Exec Call := do
  let (fields, rest) ← expandFirst capture words
  let c : Call := ⟨fields, fields, rest, none, true, none, false⟩
  if fields.isEmpty then return c
  let c ← nameCall capture wordDepth c
  let others ← expandRest capture c.assigns c.rest
  return { c with shown := c.shown ++ others, fields := c.fields ++ others, rest := [] }

end Exec

end Flowline.Shell
