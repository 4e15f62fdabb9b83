import Flowline.Shell.Words

/-!
# Redirections

Descriptors that refer to something else for a command, or from a command on.
-/

namespace Flowline.Shell

/-- A redirection whose target has been expanded. -/
structure Redirected where
  fd : Nat
  kind : RedirectKind
  /-- The name of a file, a descriptor or a text. -/
  target : String

namespace Exec

/-- Why a file cannot be opened or made. -/
def refusal (creating : Bool) (e : OsError) : String :=
  match e with
  | .notFound => if creating then "Directory nonexistent" else "No such file"
  | .notDirectory => if creating then "Directory nonexistent" else "No such file"
  | e => e.text

/-- Expands the targets of redirections; texts in the script are left for later. -/
def expandTargets (capture : Command → Exec String) : List Redirect → Exec (List (Redirected × List Part))
  | [] => return []
  | .mk fd kind target :: rest => do
    let name ← if kind = .here then pure "" else expandText capture .single target
    if kind = .duplicate && name ≠ "-" then
      let isNumber := match name.toList with
        | [c] => c.isDigit
        | _ => false
      if ! isNumber then
        modify fun p => { p with line := p.reached }
        abort "Syntax error: Bad fd number"
    return (⟨fd, kind, name⟩, target) :: (← expandTargets capture rest)

/-- A pipe with a text in it. -/
def pipeOf (text : String) : Exec Handle := do
  let n ← withWorld World.newPipe
  changeWorld fun w => { w with pipes := w.pipes.modify n (·.push text text.length) }
  return .reader n

/-- How the file of a redirection is opened. -/
def accessOf (p : Process) (kind : RedirectKind) : Access :=
  match kind with
  | .read => .read
  | .append => .addTo
  | .update => .update
  | .clobber => .write
  | _ => { Access.write with exclusive := p.hasFlag 'C' }

/-- Carries out one redirection.  If descriptors are `saved`, what they referred to is out of reach. -/
def redirectOne (capture : Command → Exec String) (saved : Bool) (r : Redirected) (document : List Part) : Exec Unit := do
  let p ← get
  match r.kind with
  | .here =>
    let text ← expandText capture .document document
    let h ← pipeOf text
    modify (·.bind r.fd (some h))
  | .duplicate =>
    match r.target.toNat? with
    | none => set (p.bind r.fd none)
    | some n =>
      if n ≠ r.fd then
        match p.handle? n with
        | some h => set (p.bind r.fd (some h))
        | none =>
          if saved then set (p.bind r.fd none)
          abort (toString n ++ ": " ++ OsError.badDescriptor.text)
  | kind =>
    let access := accessOf p kind
    let keepsOther := match (← files).lookup? p.directory r.target with
      | some n => n.text?.isNone
      | none => false
    match ← openFile r.target (if keepsOther then { access with exclusive := false } else access) with
    | .ok h => modify (·.bind r.fd (some h))
    | .error e =>
      abort ((if access.create then "cannot create " else "cannot open ") ++ r.target ++ ": " ++
        refusal access.create e)

/-- Carries out redirections in order. -/
def redirectAll (capture : Command → Exec String) (saved : Bool) : List (Redirected × List Part) → Exec Unit
  | [] => return
  | (r, document) :: rest => do
    redirectOne capture saved r document
    redirectAll capture saved rest

/-- Carries out redirections; false if one is not possible. -/
def redirectSafely (capture : Command → Exec String) (saved : Bool) (rs : List (Redirected × List Part)) :
    Exec Bool := do
  match ← attempt (redirectAll capture saved rs) with
  | .ok () => return true
  | .error .failed =>
    status 2
    return false
  | .error h => halt h

/-- The process with some descriptors as they were in another. -/
def restoreFds (old : Process) (fds : List Nat) (p : Process) : Process :=
  fds.foldl (fun p fd => p.bind fd (old.handle? fd)) { p with held := old.held }

/-- Runs a part after which some descriptors refer to what they refer to now. -/
def keepingFds {α : Type} (fds : List Nat) (m : Exec α) : Exec α := do
  let old ← get
  set { old with held := fds.filterMap old.handle? ++ old.held }
  ensuring m (restoreFds old fds)

end Exec

end Flowline.Shell
