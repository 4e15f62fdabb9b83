import Flowline.Shell.Utility.Count
import Flowline.Shell.Utility.Input

/-!
# Copying blocks

`dd`: an input is read in blocks, some of them are changed and written in blocks of another size.
-/

namespace Flowline.Shell

namespace Blocks

/-- What to copy, and how. -/
structure Copying where
  input : Option String
  output : Option String
  inputSize : Nat
  outputSize : Nat
  /-- What is read is written at once, whatever its size. -/
  direct : Bool
  count : Option Nat
  skip : Nat
  seek : Nat
  conversions : List String
  flags : List String
  outputFlags : List String
  status : String

inductive Fault
  | operand (text : String)
  | number (text : String)
  | conversion (text : String)
  | inputFlag (text : String)
  | outputFlag (text : String)
  | status (text : String)

/-- The message of a fault, and whether help is offered with it. -/
def Fault.message : Fault → String × Bool
  | operand s => ("unrecognized operand " ++ Quotation.always s, true)
  | number s => ("invalid number: " ++ Quotation.always s, false)
  | conversion s => ("invalid conversion: " ++ Quotation.always s, true)
  | inputFlag s => ("invalid input flag: " ++ Quotation.always s, true)
  | outputFlag s => ("invalid output flag: " ++ Quotation.always s, true)
  | status s => ("invalid status level: " ++ Quotation.always s, true)

/-- The factor that a unit stands for. -/
def unit? (s : String) : Option Nat :=
  match s.toList with
  | ['c'] => some 1
  | ['w'] => some 2
  | ['B'] => some 1
  | ['x'] => none
  | ['k', 'B'] => some 1000
  | _ => Count.unit? s

/-- The number that a text denotes, perhaps as a product. -/
def amount? (s : String) : Option Nat :=
  (Text.split 'x' s).foldl (fun product part => do
    let n ← product
    let digits := part.toList.takeWhile Char.isDigit
    if digits.isEmpty then none
    let factor ← unit? (String.ofList (part.toList.drop digits.length))
    return n * (Text.digitsValue digits * factor)) (some 1)

def conversionNames : List String := ["ascii", "ebcdic", "ibm", "block", "unblock", "lcase", "ucase", "sparse",
  "swab", "sync", "excl", "nocreat", "notrunc", "noerror", "fdatasync", "fsync"]

def flagNames : List String := ["append", "direct", "directory", "dsync", "sync", "fullblock", "nonblock",
  "noatime", "nocache", "noctty", "nofollow", "count_bytes", "skip_bytes", "seek_bytes"]

/-- The plan with one operand taken into account. -/
def Copying.add (p : Copying) (operand : String) : Except Fault Copying := do
  let key := Text.before '=' operand
  if key.length = operand.length then throw (.operand operand)
  let value := String.ofList (operand.toList.drop (key.length + 1))
  let number : Except Fault Nat := match amount? value with
    | some n => .ok n
    | none => .error (.number value)
  let size : Except Fault Nat := do
    let n ← number
    if n = 0 then throw (.number value) else return n
  let items := Text.split ',' value
  match key with
  | "if" => return { p with input := some value }
  | "of" => return { p with output := some value }
  | "bs" =>
    let n ← size
    return { p with inputSize := n, outputSize := n, direct := true }
  | "ibs" => return { p with inputSize := ← size }
  | "obs" => return { p with outputSize := ← size }
  | "cbs" =>
    let _ ← size
    return p
  | "count" =>
    let bytes : Bool := value.toList.getLast? = some 'B'
    let n ← number
    return { p with
      count := some n
      flags := if bytes then "count_bytes" :: p.flags else p.flags }
  | "skip" | "iseek" => return { p with skip := ← number }
  | "seek" | "oseek" => return { p with seek := ← number }
  | "conv" =>
    match items.find? (! conversionNames.contains ·) with
    | some c => throw (.conversion c)
    | none => return { p with conversions := p.conversions ++ items }
  | "iflag" =>
    match items.find? (! flagNames.contains ·) with
    | some c => throw (.inputFlag c)
    | none => return { p with flags := p.flags ++ items }
  | "oflag" =>
    match items.find? (! flagNames.contains ·) with
    | some c => throw (.outputFlag c)
    | none => return { p with outputFlags := p.outputFlags ++ items }
  | "status" =>
    if ["none", "noxfer", "progress"].contains value then return { p with status := value }
    else throw (.status value)
  | _ => throw (.operand operand)

def Copying.ofOperands (operands : List String) : Except Fault Copying :=
  operands.foldlM Copying.add ⟨none, none, 512, 512, false, none, 0, 0, [], [], [], ""⟩

/-- Exchanges the characters of every pair. -/
def swapPairs : List Char → List Char
  | a :: b :: cs => b :: a :: swapPairs cs
  | cs => cs

/-- A block as it is to be written. -/
def Copying.convert (p : Copying) (block : String) : String :=
  let has := p.conversions.contains
  let cs := block.toList
  let cs := if has "sync" then cs ++ List.replicate (p.inputSize - cs.length) '\x00' else cs
  let cs := if has "ucase" then cs.map Char.toUpper else if has "lcase" then cs.map Char.toLower else cs
  String.ofList (if has "swab" then swapPairs cs else cs)

/-- How many records have gone through, whole ones and others. -/
structure Tally where
  full : Nat
  part : Nat
  size : Nat

def Tally.add (t : Tally) (unit size : Nat) : Tally :=
  if size = 0 then t
  else if size = unit then { t with full := t.full + 1, size := t.size + size }
  else { t with part := t.part + 1, size := t.size + size }

def Tally.text (t : Tally) : String := toString t.full ++ "+" ++ toString t.part ++ " records "

end Blocks

namespace Exec

open Blocks

/-- Writes the whole blocks of what has been gathered; the rest, what has been written, and what went wrong. -/
def writeBlocks (target : Handle) (size : Nat) (finish : Bool) : Nat → List Char → Tally →
    Exec (List Char × Tally × Option OsError)
  | 0, cs, t => return (cs, t, none)
  | fuel + 1, cs, t => do
    let block := cs.take size
    if block.isEmpty || (! finish && block.length < size) then return (cs, t, none)
    match ← writeTo target (String.ofList block) with
    | .error e => return (cs, t, some e)
    | .ok () => writeBlocks target size finish fuel (cs.drop size) (t.add size block.length)

/-- Reads a block, in several parts if it has to be full. -/
def readBlock (h : Handle) (full : Bool) : Nat → Nat → String → Exec (Except OsError String)
  | 0, _, got => return .ok got
  | fuel + 1, size, got => do
    match ← readFrom h size false with
    | .error e => return .error e
    | .ok "" => return .ok got
    | .ok s =>
      if full && s.length < size then readBlock h full fuel (size - s.length) (got ++ s)
      else return .ok (got ++ s)

/-- Copies blocks; `left` is how much is still to be read. -/
def copyBlocks (p : Copying) (source target : Handle) : Nat → Option Nat → List Char → Tally → Tally →
    Exec (Tally × Tally)
  | 0, _, _, i, o => return (i, o)
  | fuel + 1, left, gathered, i, o => do
    let byBytes := p.flags.contains "count_bytes"
    let size := match left with
      | some n => if byBytes then min n p.inputSize else if n = 0 then 0 else p.inputSize
      | none => p.inputSize
    let blameFile (what : String) (name : Option String) (standard : String) (e : OsError) : Exec Unit := do
      complain ("error " ++ what ++ " " ++ Quotation.always (name.getD standard) ++ ": " ++ e.text)
      failWith 1
    let finish (gathered : List Char) (i o : Tally) : Exec (Tally × Tally) := do
      let (_, o, wrong) ← writeBlocks target p.outputSize true (gathered.length + 1) gathered o
      match wrong with
      | some e => blameFile "writing" p.output "standard output" e
      | none => pure ()
      return (i, o)
    if size = 0 then finish gathered i o
    else
      match ← readBlock source (p.flags.contains "fullblock") (size + 1) size "" with
      | .error e =>
        blameFile "reading" p.input "standard input" e
        finish gathered i o
      | .ok "" => finish gathered i o
      | .ok block =>
        let i := i.add p.inputSize block.length
        let left := left.map fun n => n - if byBytes then block.length else 1
        let cs := gathered ++ (p.convert block).toList
        let (rest, o, wrong) ← writeBlocks target p.outputSize p.direct (cs.length + 1) cs o
        match wrong with
        | some e =>
          blameFile "writing" p.output "standard output" e
          return (i, o)
        | none => copyBlocks p source target fuel left rest i o

/-- Opens the output. -/
def openTarget (p : Copying) (name : String) : Exec (Except OsError Handle) := do
  let keeps := p.conversions.contains "notrunc" || 0 < p.seek
  let access := { Access.write with
    truncate := ! keeps
    create := ! p.conversions.contains "nocreat"
    exclusive := p.conversions.contains "excl"
    atEnd := p.outputFlags.contains "append" }
  match ← openFile name access with
  | .error e => return .error e
  | .ok h =>
    if let .file n := h then
      let place := if p.outputFlags.contains "seek_bytes" then p.seek else p.seek * p.outputSize
      match (← world).opened[n]? with
      | some o =>
        if keeps && ! p.conversions.contains "notrunc" then
          changeWorld fun w => { w with files := match w.files.nodes[o.node]?.bind Node.text? with
            | some s => w.files.setContent o.node w.clock (.text (String.ofList (s.toList.take place)))
            | none => w.files }
        changeWorld fun w => { w with opened := w.opened.modify n fun o => { o with place } }
      | none => pure ()
    return .ok h

/-- Passes over the beginning of the input; false if there is not so much. -/
def skipInput (h : Handle) : Nat → Nat → Exec Bool
  | 0, _ => return true
  | _, 0 => return true
  | fuel + 1, size => do
    match ← readFrom h (min size blockSize) false with
    | .ok "" => return false
    | .ok s => skipInput h fuel (size - s.length)
    | .error _ => return true

def dd (args : List String) : Exec Unit :=
  withArguments { letters := "" } 1 args fun a => do
    match Copying.ofOperands a.operands with
    | .error fault =>
      let (message, helps) := fault.message
      if helps then misuse message 1
      else
        complain message
        status 1
    | .ok p =>
      let source ← match p.input with
        | some name => openFile name .read
        | none => openInput "-"
      match source with
      | .error e => refuse p.input "standard input" e
      | .ok source =>
        holding source do
          let target ← match p.output with
            | some name => openTarget p name
            | none => match (← get).handle? 1 with
              | some h => pure (.ok h)
              | none => pure (.error .badDescriptor)
          match target with
          | .error e => refuse p.output "standard output" e
          | .ok target =>
            holding target do
              let skip := if p.flags.contains "skip_bytes" then p.skip else p.skip * p.inputSize
              if ! (← skipInput source (skip + 1) skip) then
                complain (p.input.getD "standard input" ++ ": cannot skip to specified offset")
              let (i, o) ← copyBlocks p source target manyBlocks p.count [] ⟨0, 0, 0⟩ ⟨0, 0, 0⟩
              if p.status ≠ "none" then
                tell 2 (i.text ++ "in\n" ++ o.text ++ "out\n")
                if p.status ≠ "noxfer" then
                  tell 2 (toString o.size ++ (if o.size = 1 then " byte" else " bytes") ++ " copied, 0.0001 s, 1 MB/s\n")
where
  refuse (name : Option String) (standard : String) (e : OsError) : Exec Unit := do
    complain ("failed to open " ++ Quotation.always (name.getD standard) ++ ": " ++ e.text)
    status 1

end Exec

end Flowline.Shell
