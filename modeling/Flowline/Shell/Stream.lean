import Flowline.Shell.Exec

/-!
# Reading and writing

What processes do with their descriptors: opening files, reading from files and pipes, and writing.  Each
fails with an error of the system or goes on.  A reader waits as long as a pipe is empty, a writer as long as it is full.
-/

namespace Flowline.Shell

/-- How a file is opened. -/
structure Access where
  readable : Bool
  writable : Bool
  /-- Makes the file if there is none. -/
  create : Bool
  /-- Only a new file will do. -/
  exclusive : Bool
  truncate : Bool
  atEnd : Bool

namespace Access

def read : Access := ⟨true, false, false, false, false, false⟩

def write : Access := ⟨false, true, true, false, true, false⟩

def addTo : Access := ⟨false, true, true, false, false, true⟩

def update : Access := ⟨true, true, true, false, false, false⟩

end Access

namespace Exec

/-! ## Writing -/

/-- Ends by the signal for a pipe that nobody reads, or fails if that is ignored. -/
def breakPipe : Exec (Except OsError Unit) := do
  let p ← get
  if p.ignored.contains Signal.pipe then return .error .brokenPipe
  else if p.caught.contains Signal.pipe then
    changeWorld fun w => (p.sync w).deliver p.pid Signal.pipe
    return .error .brokenPipe
  else die Signal.pipe

/-- The amount that is written to a pipe all at once or not at all. -/
def atomicSize : Nat := 4096

/-- Writes some characters to a pipe, waiting for room as often as it takes. -/
def writePipe (n : Nat) : Nat → List Char → Nat → Exec (Except OsError Unit)
  | 0, _, _ => return .ok ()
  | fuel + 1, cs, size => do
    let p ← get
    let w := p.sync (← world)
    if ! w.isHeld (.reader n) then breakPipe
    else
      let room := w.pipeRoom n
      if size ≤ room then
        changeWorld fun w => { w with pipes := w.pipes.modify n (·.push (String.ofList cs) size) }
        return .ok ()
      else if size ≤ atomicSize || room < atomicSize then
        pause (.writable n (min size atomicSize)) false
        writePipe n fuel cs size
      else
        changeWorld fun w => { w with pipes := w.pipes.modify n (·.push (String.ofList (cs.take room)) room) }
        pause (.writable n atomicSize) false
        writePipe n fuel (cs.drop room) (size - room)

/-- Writes to what a descriptor refers to. -/
def writeTo (h : Handle) (text : String) : Exec (Except OsError Unit) := do
  let size := text.length
  match h with
  | .console target =>
    work (1 + size / 4)
    let pid := (← get).pid
    changeWorld fun w => { w with output := ⟨w.now, target, (pid, w.nextPid), text⟩ :: w.output }
    return .ok ()
  | .reader _ => return .error .badDescriptor
  | .writer n | .duplex n =>
    work (1 + size / 16)
    let p ← get
    let w := p.sync (← world)
    if size ≤ w.pipeRoom n && w.isHeld (.reader n) then
      changeWorld fun w => { w with pipes := w.pipes.modify n (·.push text size) }
      return .ok ()
    else writePipe n (2 * size + 4) text.toList size
  | .file n =>
    work (1 + size / 16)
    let w ← world
    match w.opened[n]? with
    | none => return .error .badDescriptor
    | some o =>
      if ! o.writable then return .error .badDescriptor
      match w.files.nodes[o.node]?.map Node.content with
      | some (.device .full) => return .error .noSpace
      | some (.text _) =>
        changeWorld (·.writeFile n text size)
        return .ok ()
      | _ => return .ok ()

/-- Writes to a descriptor. -/
def writeFd (fd : Nat) (text : String) : Exec (Except OsError Unit) := do
  match (← get).handle? fd with
  | none => return .error .badDescriptor
  | some h => if text = "" then return .ok () else writeTo h text

/-- Writes to a descriptor, whether that is possible or not. -/
def tell (fd : Nat) (text : String) : Exec Unit := do
  let _ ← writeFd fd text

/-! ## Standard output -/

/-- How much is gathered before it is written. -/
def bufferSize : Nat := 4096

/-- Writes what has been gathered. -/
def flush : Exec Unit := do
  let p ← get
  let (text, size) := p.buffer
  if 0 < size then
    set { p with buffer := ("", 0) }
    match ← writeFd 1 text with
    | .ok () => return
    | .error e => modify fun p => { p with writeError := some e }

/-- Adds a text to the standard output. -/
def print (text : String) : Exec Unit := do
  let size := text.length
  modify fun p => { p with buffer := (p.buffer.1 ++ text, p.buffer.2 + size) }
  if bufferSize ≤ (← get).buffer.2 then flush

/-- Writes what has been gathered, and tells what has prevented any writing. -/
def close : Exec (Option OsError) := do
  flush
  let p ← get
  set { p with writeError := none }
  return p.writeError

/-! ## Reading -/

/-- How much of a file or a pipe is read at once. -/
def blockSize : Nat := 65536

/-- Waits until a pipe has something to read or is at its end; false if it is at its end. -/
def waitPipe (n : Nat) (alert : Bool) : Exec Bool := do
  let p ← get
  let w := p.sync (← world)
  if w.isEmptyPipe n && w.isHeld (.writer n) then pause (.readable n) alert
  return ! (← world).isEmptyPipe n

/-- Characters that look as if they had no order. -/
def noise (seed size : Nat) : String :=
  let add (acc : Nat × List Char) (_ : Nat) : Nat × List Char :=
    let next := (acc.1 * 1103515245 + 12345) % 0x80000000
    (next, Char.ofNat (next / 65536 % 256) :: acc.2)
  String.ofList ((List.range size).foldl add (seed * 7919, [])).2

/-- Reads at most `size` characters, none at the end. -/
def readFrom (h : Handle) (size : Nat) (alert : Bool) : Exec (Except OsError String) := do
  match h with
  | .console _ => return .error .badDescriptor
  | .writer _ => return .error .badDescriptor
  | .reader n | .duplex n =>
    if ! (← waitPipe n alert) then return .ok ""
    work 1
    withWorld fun w =>
      match w.pipes[n]? with
      | none => (.ok "", w)
      | some p =>
        if p.size ≤ size && p.front.isEmpty then
          (.ok (String.join p.back.toList), { w with pipes := w.pipes.modify n fun _ => .empty })
        else
          let p := p.unpacked
          (.ok (String.ofList (p.front.take size)), { w with pipes := w.pipes.modify n fun _ => p.drop size })
  | .file n =>
    work 1
    let w ← world
    match w.opened[n]? with
    | none => return .error .badDescriptor
    | some o =>
      if ! o.readable then return .error .badDescriptor
      match w.files.nodes[o.node]?.map Node.content with
      | some .directory => return .error .isDirectory
      | some (.device d) =>
        if d = .null then return .ok ""
        work (size / 16)
        if d = .zero || d = .full then return .ok (String.ofList (List.replicate size '\x00'))
        changeWorld (·.moveTo n (o.place + size) [])
        return .ok (noise (n + o.place + 1) size)
      | some (.text s) =>
        if o.place = 0 && s.length ≤ size then
          changeWorld (·.moveTo n s.length [])
          return .ok s
        else
          let cs := w.ahead o
          let taken := cs.take size
          changeWorld (·.moveTo n (o.place + taken.length) (cs.drop size))
          return .ok (String.ofList taken)
      | _ => return .ok ""

/-- Reads up to the end, block by block. -/
def readToEnd (h : Handle) : Nat → List String → Exec (Except OsError String)
  | 0, read => return .ok (String.join read.reverse)
  | fuel + 1, read => do
    match ← readFrom h blockSize false with
    | .error e => return .error e
    | .ok "" => return .ok (String.join read.reverse)
    | .ok s => readToEnd h fuel (s :: read)

/-- More than the number of blocks that are ever read. -/
def manyBlocks : Nat := 0x100000000

/-- Everything up to the end of what a descriptor refers to. -/
def readAll (fd : Nat) : Exec (Except OsError String) := do
  match (← get).handle? fd with
  | none => return .error .badDescriptor
  | some h => readToEnd h manyBlocks []

/-! ## Files -/

def files : Exec Files := do return (← world).files

def changeFiles (f : Files → Files) : Exec Unit := changeWorld fun w => { w with files := f w.files }

/-- The permissions of a new file or directory. -/
def newMode (p : Process) (mode : Nat) : Nat := Nat.land mode (Nat.xor 0o777 (Nat.land p.umask 0o777))

/-- Opens a pipe with a name, and waits until its other end has been opened too. -/
def openNamedPipe (node : Nat) (a : Access) : Exec Handle := do
  let p ← get
  let before := (← world).partners node a.readable
  let pipe ← withWorld fun w => (p.sync w).openNamed node a.readable a.writable
  let (mine, other) : Handle × Handle := if a.readable && a.writable then (.duplex pipe, .duplex pipe)
    else if a.readable then (.reader pipe, .writer pipe) else (.writer pipe, .reader pipe)
  modify fun p => { p with held := mine :: p.held }
  let p ← get
  if ! (p.sync (← world)).isHeld other then pause (.partner node a.readable before) false
  modify fun p => { p with held := p.held.drop 1 }
  return mine

/-- Opens a file. -/
def openFile (path : String) (a : Access) : Exec (Except OsError Handle) := do
  let p ← get
  let w ← world
  let opened (n : Nat) (fs : Files) : Exec (Except OsError Handle) := do
    match fs.nodes[n]?.map Node.content with
    | some (.descriptor fd) =>
      match p.handle? fd with
      | some h => return .ok h
      | none => return .error .notFound
    | some (.text _) =>
      let fs := if a.truncate then fs.setContent n w.clock (.text "") else fs
      changeFiles fun _ => fs
      return .ok (.file (← withWorld (·.openNode n a.atEnd a.readable a.writable)))
    | some (.device .terminal) => return .error .noDevice
    | some .directory =>
      if a.writable then return .error .isDirectory
      return .ok (.file (← withWorld (·.openNode n false true false)))
    | some .fifo =>
      changeFiles fun _ => fs
      return .ok (← openNamedPipe n a)
    | _ => return .ok (.file (← withWorld (·.openNode n a.atEnd a.readable a.writable)))
  if a.create then
    match w.files.create p.directory path (newMode p 0o666) w.clock with
    | .error e => return .error e
    | .ok (n, fs) =>
      if a.exclusive && n < w.files.nodes.size then return .error .alreadyThere
      opened n fs
  else
    match w.files.find true p.directory path with
    | .error e => return .error e
    | .ok name =>
      match w.files.number? name with
      | some n =>
        if path.toList.getLast? = some '/' && ! w.files.isDirectory name then return .error .notDirectory
        opened n w.files
      | none => return .error .notFound

/-- Everything in a file. -/
def readPath (path : String) : Exec (Except OsError String) := do
  match ← openFile path .read with
  | .error e => return .error e
  | .ok h =>
    modify fun p => { p with held := h :: p.held }
    let r ← readToEnd h manyBlocks []
    modify fun p => { p with held := p.held.drop 1 }
    return r

end Exec

end Flowline.Shell
