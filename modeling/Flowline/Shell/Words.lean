import Flowline.Shell.Arithmetic
import Flowline.Shell.Expansion
import Flowline.Shell.Variables

/-!
# Expanding words

From the words of a script to the arguments of commands: parameters, the output of commands, arithmetic and
tildes are replaced by what they stand for.  Running commands is left to a function that is given.
-/

namespace Flowline.Shell

/-- What is done with a word besides. -/
structure Style where
  /-- It is cut into fields. -/
  split : Bool
  /-- A tilde in front stands for a directory. -/
  tilde : Bool
  /-- So does one after a colon. -/
  colons : Bool

namespace Style

/-- The arguments of a command. -/
def fields : Style := ⟨true, true, false⟩

/-- A single text. -/
def single : Style := ⟨false, true, false⟩

/-- The value of a variable. -/
def value : Style := ⟨false, true, true⟩

/-- A text in the script. -/
def document : Style := ⟨false, false, false⟩

end Style

/-! ## Tildes -/

/-- The directory that a tilde and a name stand for. -/
def homeOf? (p : Process) (name : String) : Option String :=
  if name = "" then p.value? "HOME" else if name = "root" then some "/root" else none

/-- Replaces tildes in a text that is not quoted, at its start if `atStart` and after colons if `colons`;
`isLast` says that the word ends with it. -/
def expandTildes (home : String → Option String) (colons isLast : Bool) : Nat → Bool → List Char → List Part
  | 0, _, cs => [.text (String.ofList cs) false]
  | fuel + 1, atStart, cs =>
    match atStart, cs with
    | true, '~' :: rest =>
      let name := rest.takeWhile fun c => c ≠ '/' && ! (colons && c = ':')
      let after := rest.drop name.length
      match if after.isEmpty && ! isLast then none else home (String.ofList name) with
      | some h =>
        (if h = "" then [] else [Part.text h true]) ++
          (if after.isEmpty then [] else expandTildes home colons isLast fuel false after)
      | none => expandTildes home colons isLast fuel false cs
    | _, cs =>
      if colons then
        let part := cs.takeWhile (· ≠ ':')
        match cs.drop part.length with
        | [] => [.text (String.ofList part) false]
        | colon :: rest =>
          .text (String.ofList (part ++ [colon])) false :: expandTildes home colons isLast fuel true rest
      else [.text (String.ofList cs) false]

/-- Replaces the tildes in a word. -/
def expandHomes (p : Process) (style : Style) : Bool → List Part → List Part
  | _, [] => []
  | atStart, .text s false :: rest =>
    if s.toList.contains '~' then
      expandTildes (homeOf? p) style.colons rest.isEmpty (s.length + 1) atStart s.toList ++
        expandHomes p style (style.colons && s.toList.getLast? = some ':') rest
    else .text s false :: expandHomes p style (style.colons && s.toList.getLast? = some ':') rest
  | _, x :: rest => x :: expandHomes p style false rest

/-! ## Parameters -/

namespace Exec

/-- The bits of all positional parameters. -/
def allArgs (p : Process) (star quoted split : Bool) : List Bit :=
  if ! split || (star && quoted) then Bit.ofText (String.intercalate (glue p) p.args) quoted false
  else if quoted then
    if p.args.isEmpty then [.nothing]
    else List.intercalate [.cut] (p.args.map fun a => .quotes :: Bit.ofText a true false)
  else List.intercalate [.cut] (p.args.map fun a => Bit.ofText a false true)

/-- A field for each text. -/
def plainFields (fields : List (List (Char × Bool))) : Exec (List String) := do
  let p ← get
  if p.hasFlag 'f' then return fields.map Glob.text
  let fs ← files
  return fields.flatMap (Glob.expand fs p.directory)

/-- The bits that are left when a pattern has cut off some at the start or at the end. -/
def cutBits (how : Modifier) (pattern : Pattern) (bits : List Bit) : List Bit :=
  let bits := bits.filter fun
    | .char _ _ _ => true
    | .cut => true
    | _ => false
  let text := String.ofList (bits.map fun
    | .char c _ _ => c
    | _ => ' ')
  match how with
  | .cutSuffix longest => bits.take (pattern.cutSuffix longest text).length
  | .cutFront longest => bits.drop (text.length - (pattern.cutFront longest text).length)
  | _ => bits

/-- What an arithmetic expression gives; its assignments are made. -/
def calculate (text : String) : Exec Int := do
  let p ← get
  match Arithmetic.eval (fun x => param? p x) text with
  | .ok (n, assigned) =>
    for (x, v) in assigned do assignNumber x v
    return n
  | .error (.expecting what) => abort ("arithmetic expression: expecting " ++ what ++ ": \"" ++ text ++ "\"")
  | .error .divisionByZero => abort ("arithmetic expression: division by zero: \"" ++ text ++ "\"")
  | .error (.illegalNumber s) => abort ("Illegal number: " ++ s)

/-! ## Words -/

/-- The text of a word that consists of texts and of parameters that are set. -/
def readyText? (p : Process) (style : Style) : List Part → Option String
  | [] => some ""
  | .text s quoted :: rest =>
    if ! quoted && style.tilde && s.toList.contains '~' then none
    else (readyText? p style rest).map (s ++ ·)
  | .param name _ :: rest =>
    if name = "@" || name = "*" then none
    else (param? p name).bind fun v => (readyText? p style rest).map (v ++ ·)
  | _ => none

/-- Whether a text without quotes is one field, and that field names no files. -/
def isPlain (s : String) : Bool :=
  s = "[" || (s ≠ "" && s.toList.all fun c => c ≠ '~' && c ≠ '*' && c ≠ '?' && c ≠ '[')

mutual

def expandPart (capture : Command → Exec String) : Nat → Style → Part → Exec (List Bit)
  | 0, _, _ => hang
  | fuel + 1, style, part => do
    match part with
    | .text s quoted => return (if quoted then [.quotes] else []) ++ Bit.ofText s quoted false
    | .param name quoted =>
      let p ← get
      if name = "@" || name = "*" then return allArgs p (name = "*") quoted style.split
      match param? p name with
      | some v => return Bit.ofText v quoted (! quoted)
      | none =>
        if p.hasFlag 'u' then abort (name ++ ": parameter not set")
        return []
    | .length name quoted =>
      let p ← get
      if name = "@" || name = "*" then
        let size := (String.intercalate " " p.args).length
        return Bit.ofText (toString size) quoted (! quoted)
      match param? p name with
      | some v => return Bit.ofText (toString v.length) quoted (! quoted)
      | none =>
        if p.hasFlag 'u' then abort (name ++ ": parameter not set")
        return Bit.ofText "0" quoted (! quoted)
    | .modified name colon how word quoted =>
      let p ← get
      let isAll := name = "@" || name = "*"
      let value? := if isAll then some (String.intercalate " " p.args) else param? p name
      let isPresent := value?.any fun v => ! colon || v ≠ ""
      let own (p : Process) : List Bit :=
        if isAll then allArgs p (name = "*") quoted style.split
        else Bit.ofText ((param? p name).getD "") quoted (! quoted)
      let other : Exec (List Bit) := do
        let bits ← expandParts capture fuel { style with tilde := true } word
        return if quoted then Bit.quote bits else bits.map fun
          | .char c false _ => .char c false true
          | b => b
      match how with
      | .default => if isPresent then return own p else other
      | .replace => if isPresent then other else return []
      | .assign =>
        if isPresent then return own p
        let text := Bit.text (← expandParts capture fuel .single word)
        if ! isName name then abort (name ++ ": bad variable name")
        assign name text
        let p ← get
        return own p
      | .require =>
        if isPresent then return own p
        let text := Bit.text (← expandParts capture fuel .single word)
        let message := if ! word.isEmpty then text
          else if colon then "parameter not set or null" else "parameter not set"
        abort (name ++ ": " ++ message)
      | how =>
        if value?.isNone && p.hasFlag 'u' then abort (name ++ ": parameter not set")
        if value?.isNone then return []
        let pattern := Pattern.ofWord (Bit.chars (← expandParts capture fuel .single word))
        let p ← get
        return cutBits how pattern (own p)
    | .bad => abort "Bad substitution"
    | .output body quoted =>
      let text ← capture body
      return Bit.ofText text quoted (! quoted)
    | .arithmetic expr quoted =>
      let text ← match readyText? (← get) .document expr with
        | some s => pure s
        | none => do pure (Bit.text (← expandParts capture fuel .document expr))
      return Bit.ofText (toString (← calculate text)) quoted (! quoted)

/-- The bits of a word. -/
def expandParts (capture : Command → Exec String) : Nat → Style → List Part → Exec (List Bit)
  | 0, _, _ => hang
  | fuel + 1, style, word => do
    let p ← get
    let word := if style.tilde then expandHomes p style true word else word
    expandEach capture fuel style word

/-- The bits of some parts. -/
def expandEach (capture : Command → Exec String) : Nat → Style → List Part → Exec (List Bit)
  | 0, _, _ => hang
  | _, _, [] => return []
  | fuel + 1, style, part :: rest => do
    let bits ← expandPart capture fuel style part
    match rest with
    | [] => return bits
    | rest => return bits ++ (← expandEach capture fuel style rest)

end

/-- More than the depth to which words are nested. -/
def wordDepth : Nat := 0x100000

/-- The fields that a word becomes. -/
def expandWord (capture : Command → Exec String) (word : List Part) : Exec (List String) := do
  match word with
  | [.text s true] => return [s]
  | [.text s false] => if isPlain s then return [s] else expanded word
  | word => expanded word
where
  expanded (word : List Part) : Exec (List String) := do
    let bits ← expandParts capture wordDepth .fields word
    plainFields (Bit.fields (separators (← get)) bits)

/-- The text that a word becomes. -/
def expandText (capture : Command → Exec String) (style : Style) (word : List Part) : Exec String := do
  match readyText? (← get) style word with
  | some s => return s
  | none => return Bit.text (← expandParts capture wordDepth style word)

/-- The pattern that a word becomes. -/
def expandPattern (capture : Command → Exec String) (word : List Part) : Exec Pattern := do
  return Pattern.ofWord (Bit.chars (← expandParts capture wordDepth .single word))

end Exec

end Flowline.Shell
