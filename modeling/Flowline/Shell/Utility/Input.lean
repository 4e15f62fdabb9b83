import Flowline.Shell.Utility.Arguments

/-!
# Inputs of utilities

Going through files, or through what comes on the standard input, block by block or line by line.  What is
read is handed on as soon as it has come.
-/

namespace Flowline.Shell.Exec

/-- Runs a part with something kept open. -/
def holding {α : Type} (h : Handle) (m : Exec α) : Exec α := do
  let p ← get
  set { p with held := h :: p.held }
  ensuring m fun q => { q with held := p.held }

/-- Opens the input that a name stands for; a minus sign stands for the standard input. -/
def openInput (name : String) : Exec (Except OsError Handle) := do
  if name = "-" then
    match (← get).handle? 0 with
    | some h => return .ok h
    | none => return .error .badDescriptor
  else openFile name .read

/-! ## Blocks and lines -/

/-- Hands one block after another to `f`, as long as that asks for more. -/
def foldBlocksFrom {σ : Type} (h : Handle) (f : σ → String → Exec (σ × Bool)) :
    Nat → σ → Exec (Except OsError σ)
  | 0, s => return .ok s
  | fuel + 1, s => do
    match ← readFrom h blockSize false with
    | .error e => return .error e
    | .ok "" => return .ok s
    | .ok text =>
      let (s, more) ← f s text
      if more then foldBlocksFrom h f fuel s else return .ok s

def foldBlocks {σ : Type} (h : Handle) (f : σ → String → Exec (σ × Bool)) (s : σ) : Exec (Except OsError σ) :=
  foldBlocksFrom h f manyBlocks s

/-- Hands the complete lines of a block to `f`; the state, the line that is open, and whether more is
asked for. -/
def foldPieces {σ : Type} (f : σ → String → Exec (σ × Bool)) : σ → String → List String → Exec ((σ × String) × Bool)
  | s, carry, [] => return ((s, carry), true)
  | s, carry, [last] => return ((s, carry ++ last), true)
  | s, carry, piece :: rest => do
    let (s, more) ← f s (carry ++ piece)
    if more then foldPieces f s "" rest else return ((s, ""), false)

/-- Hands one line after another to `f`, as long as that asks for more; what comes after the last line feed
is left over. -/
def foldOpenLines {σ : Type} (stop : Char) (h : Handle) (f : σ → String → Exec (σ × Bool)) (s : σ) :
    Exec (Except OsError (σ × String)) :=
  foldBlocks h (fun (s, carry) block => foldPieces f s carry (Text.split stop block)) (s, "")

/-- Hands one line after another to `f`, as long as that asks for more; `f` is told whether a line feed ended
the line. -/
def foldLines {σ : Type} (stop : Char) (h : Handle) (f : σ → String → Bool → Exec (σ × Bool)) (s : σ) :
    Exec (Except OsError σ) := do
  match ← foldOpenLines stop h (fun s line => f s line true) s with
  | .error e => return .error e
  | .ok (s, "") => return .ok s
  | .ok (s, line) =>
    let (s, _) ← f s line false
    return .ok s

/-! ## Several inputs -/

/-- Goes through the inputs with some names in order; of those that cannot be opened or read, `failed`
says so. -/
def foldInputs {σ : Type} (failed : Bool → String → OsError → Exec Unit)
    (f : σ → String → Handle → Exec (Except OsError σ)) : List String → σ → Exec σ
  | [], s => return s
  | name :: rest, s => do
    match ← openInput name with
    | .error e =>
      failed true name e
      foldInputs failed f rest s
    | .ok h =>
      match ← holding h (f s name h) with
      | .error e =>
        failed false name e
        foldInputs failed f rest s
      | .ok s => foldInputs failed f rest s

/-- The names of the inputs: the standard input if there are none. -/
def inputNames (names : List String) : List String := if names.isEmpty then ["-"] else names

/-- The usual complaint about an input. -/
def blame (code : Nat) (_ : Bool) (name : String) (e : OsError) : Exec Unit := do
  complain (Quotation.whereNeeded name ++ ": " ++ e.text)
  failWith code

/-- Reads up to the end, or until there are so many characters. -/
def readUpTo (h : Handle) : Nat → Nat → List String → Exec (Except OsError String)
  | 0, _, read => return .ok (String.join read.reverse)
  | fuel + 1, left, read => do
    if left = 0 then return .ok (String.join read.reverse)
    match ← readFrom h (min blockSize left) false with
    | .error e => return .error e
    | .ok "" => return .ok (String.join read.reverse)
    | .ok s => readUpTo h fuel (left - s.length) (s :: read)

/-- The first characters in the inputs with some names, at most `size`. -/
def gatherFirst (failed : Bool → String → OsError → Exec Unit) (size : Nat) (names : List String) :
    Exec (List (String × String)) := do
  let (found, _) ← foldInputs failed (fun (found, left) name h => do
    match ← readUpTo h (left + 1) left [] with
    | .ok text => return .ok ((name, text) :: found, left - text.length)
    | .error e => return .error e) (inputNames names) (([] : List (String × String)), size)
  return found.reverse

/-- Everything in the inputs with some names. -/
def gather (failed : Bool → String → OsError → Exec Unit) (names : List String) : Exec (List (String × String)) := do
  let found ← foldInputs failed (fun found name h => do
    match ← readToEnd h manyBlocks [] with
    | .ok text => return .ok ((name, text) :: found)
    | .error e => return .error e) (inputNames names) []
  return found.reverse

end Flowline.Shell.Exec
