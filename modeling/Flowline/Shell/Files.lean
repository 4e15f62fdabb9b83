import Flowline.Ordered
import Flowline.OsError
import Flowline.Shell.Bytes

/-!
# Files

A tree of directories, files and links.  Every name leads to a node, and several names may lead to the same
one.  Names are held in canonical form: absolute, without `.`, `..` and links on the way.
-/

namespace Flowline.Shell

/-- The devices of the system. -/
inductive Device
  /-- It is always empty and takes everything. -/
  | null
  /-- Zeros without an end. -/
  | zero
  /-- Zeros without an end; it takes nothing. -/
  | full
  | random
  | urandom
  /-- The terminal, which no process has. -/
  | terminal
  deriving DecidableEq

/-- The two numbers by which the system knows a device. -/
def Device.numbers : Device → Nat × Nat
  | null => (1, 3)
  | zero => (1, 5)
  | full => (1, 7)
  | random => (1, 8)
  | urandom => (1, 9)
  | terminal => (5, 0)

/-- What is at a node. -/
inductive Content
  | directory
  | text (s : String)
  | link (target : String)
  /-- A program of the system. -/
  | program (name : String)
  | device (d : Device)
  /-- A pipe that is opened by its name. -/
  | fifo
  /-- What another descriptor refers to. -/
  | descriptor (fd : Nat)

structure Node where
  content : Content
  /-- The permissions, three bits each for the owner, the group and all others. -/
  mode : Nat
  /-- When it was changed last. -/
  time : Nat
  /-- Counts the changes. -/
  version : Nat

namespace Node

def isDirectory (n : Node) : Bool :=
  match n.content with
  | .directory => true
  | _ => false

def text? (n : Node) : Option String :=
  match n.content with
  | .text s => some s
  | _ => none

def device? (n : Node) : Option Device :=
  match n.content with
  | .device d => some d
  | _ => none

/-- Whether anybody may run it. -/
def isExecutable (n : Node) : Bool := Nat.land n.mode 0o111 ≠ 0

end Node

structure Files where
  /-- The number of the node that each canonical name leads to. -/
  names : Table Nat
  nodes : Array Node

namespace Files

def empty : Files := ⟨[], #[]⟩

/-! ## Names -/

/-- A name as seen from a directory, without regard to links. -/
def resolve (directory path : String) : String :=
  let whole := if path.toList.head? = some '/' then path else directory ++ "/" ++ path
  let step (acc : List String) (part : String) : List String :=
    if part = "" || part = "." then acc
    else if part = ".." then acc.drop 1
    else part :: acc
  "/" ++ String.intercalate "/" ((Text.split '/' whole).foldl step []).reverse

/-- The name of the directory that holds a canonical name. -/
def parent (path : String) : String :=
  match (Text.split '/' path).dropLast with
  | [] => "/"
  | [_] => "/"
  | parts => String.intercalate "/" parts

/-- The canonical names of the directories above a canonical name, from the root on. -/
def parents (path : String) : List String :=
  let parts := ((Text.split '/' path).drop 1).dropLast
  "/" :: (List.range parts.length).map fun n => "/" ++ String.intercalate "/" (parts.take (n + 1))

variable (fs : Files)

def number? (path : String) : Option Nat := fs.names.get? path

/-- The node at a canonical name. -/
def node? (path : String) : Option Node := (fs.number? path).bind (fs.nodes[·]?)

/-- The longest name in a directory. -/
def maxName : Nat := 255

/-- The longest path. -/
def maxPath : Nat := 4095

/-- The most steps on the way to a file, links included. -/
def maxSteps : Nat := 4096

/-- The canonical name of some parts, the last one first. -/
def nameOf (parts : List String) : String := "/" ++ String.intercalate "/" parts.reverse

/-- The parts of the canonical name that is reached from a directory by way of some parts, the last one
first; all but the last part have to exist.  A link at the end is followed if `follow`. -/
def walk (follow : Bool) : Nat → List String → List String → Except OsError (List String)
  | 0, _, _ => .error .tooManyLinks
  | _, found, [] => .ok found
  | fuel + 1, found, part :: rest =>
    if part = "" || part = "." then walk follow fuel found rest
    else if part = ".." then walk follow fuel (found.drop 1) rest
    else if maxName < part.length then .error .nameTooLong
    else
      let here := part :: found
      match (fs.node? (nameOf here)).map Node.content with
      | none => if rest.all (· = "") then .ok here else .error .notFound
      | some (.link target) =>
        if rest.isEmpty && ! follow then .ok here
        else walk follow fuel (if target.toList.head? = some '/' then [] else found)
          (Text.split '/' target ++ rest)
      | some .directory => walk follow fuel here rest
      | some _ => if rest.isEmpty then .ok here else .error .notDirectory

/-- The canonical name of a path as seen from a directory; there need not be a file. -/
def locate (follow : Bool) (directory path : String) : Except OsError String := do
  if path = "" then throw .notFound
  if maxPath < path.length then throw .nameTooLong
  let parts := Text.split '/' path
  let start := if path.toList.head? = some '/' then []
    else (Text.split '/' directory).reverse.filter (· ≠ "")
  return nameOf (← fs.walk follow (maxSteps + parts.length) start parts)

/-- The canonical name of a file that exists. -/
def find (follow : Bool) (directory path : String) : Except OsError String := do
  let name ← fs.locate follow directory path
  if fs.names.has name then return name else throw .notFound

/-- The node that a path leads to. -/
def lookup? (directory path : String) : Option Node :=
  match fs.find true directory path with
  | .ok name => fs.node? name
  | .error _ => none

/-! ## What is there -/

def isDirectory (path : String) : Bool := (fs.node? path).any Node.isDirectory

def text? (path : String) : Option String := (fs.node? path).bind Node.text?

/-- The last part of a canonical name. -/
def lastPart (path : String) : String := (Text.split '/' path).getLast?.getD ""

/-- The names in a directory, in order. -/
def entries (directory : String) : List String :=
  let front := (if directory = "/" then "/" else directory ++ "/").toList
  fs.names.filterMap fun (path, _) =>
    let cs := path.toList
    if front.isPrefixOf cs then
      let rest := cs.drop front.length
      if rest.isEmpty || rest.contains '/' then none else some (String.ofList rest)
    else none

/-- Whether there is nothing at a canonical name and nothing can be made there. -/
def isClosed (path : String) : Bool := parent path = "/proc" && (fs.number? path).isNone

/-! ## Changes -/

/-- Puts a node of its own at a canonical name. -/
def insert (path : String) (n : Node) : Files :=
  ⟨fs.names.insert path fs.nodes.size, fs.nodes.push n⟩

/-- Changes a node. -/
def modify (number : Nat) (f : Node → Node) : Files := { fs with nodes := fs.nodes.modify number f }

/-- Changes what is in a node. -/
def setContent (number : Nat) (time : Nat) (content : Content) : Files :=
  fs.modify number fun n => { n with content, time, version := n.version + 1 }

def makeDirectory (path : String) (mode time : Nat) : Files :=
  if fs.names.has path then fs else fs.insert path ⟨.directory, mode, time, 0⟩

/-- Whether a canonical name is another or below it. -/
def isWithin (path directory : String) : Bool :=
  path = directory || (directory ++ "/").toList.isPrefixOf path.toList

/-- Removes a name and everything below it. -/
def remove (path : String) : Files := { fs with names := fs.names.filter fun (p, _) => ! isWithin p path }

/-- Gives a tree another name. -/
def rename (path target : String) : Files :=
  let moved := fs.names.filter fun (p, _) => isWithin p path
  let others := (fs.remove path).remove target
  { others with names := moved.foldl (fun names (p, n) =>
      names.insert (target ++ String.ofList (p.toList.drop path.length)) n) others.names }

/-- Gives a node a further name. -/
def addName (path : String) (number : Nat) : Files := { fs with names := fs.names.insert path number }

/-! ## Reading and writing whole files -/

def read (directory path : String) : Except OsError String := do
  let name ← fs.find true directory path
  match (fs.node? name).map Node.content with
  | some (.text s) => return s
  | some .directory => throw .isDirectory
  | some (.device .terminal) => throw .noDevice
  | _ => return ""

/-- A path without the slashes at its end. -/
def dropSlashes (path : String) : String :=
  let cs := (path.toList.reverse.dropWhile (· = '/')).reverse
  if cs.isEmpty && path ≠ "" then "/" else String.ofList cs

/-- The number of the node at a path to be written to, made if there is none. -/
def create (directory path : String) (mode time : Nat) : Except OsError (Nat × Files) := do
  if path = "" then throw .notFound
  if maxPath < path.length then throw .nameTooLong
  if path.toList.getLast? = some '/' then
    let _ ← fs.locate false directory (dropSlashes path)
    throw .isDirectory
  let name ← fs.locate true directory path
  match fs.number? name with
  | some n =>
    if fs.isDirectory name then throw .isDirectory
    return (n, fs)
  | none =>
    if fs.isClosed name then throw .notFound
    return (fs.nodes.size, fs.insert name ⟨.text "", mode, time, 0⟩)

/-- The files with a text at a path. -/
def write (directory path text : String) : Except OsError Files := do
  let (n, fs) ← fs.create directory path 0o644 0
  match fs.nodes[n]?.map Node.content with
  | some (.text _) => return fs.setContent n 0 (.text text)
  | some (.device .full) => if text = "" then return fs else throw .noSpace
  | some (.device .terminal) => throw .noDevice
  | _ => return fs

end Files

end Flowline.Shell
