import Flowline.Json.Record

/-!
# Runner configuration

How scripts are launched and within what bounds.
-/

namespace Flowline.Simulation

structure Config where
  program : String := "bun"
  /-- May refer to the script's file as `{entry}` and to its directory as `{dir}`. -/
  args : List String := ["run", "{entry}"]
  /-- The name of the script's file. -/
  entryFile : String := "main.ts"
  timeoutMs : Nat := 60000
  /-- The bytes of output that a session records. -/
  maxOutputBytes : Nat := 1048576
  /-- How many events a subscriber may fall behind. -/
  subscriberBuffer : Nat := 256
  /-- How long a finished session is kept. -/
  retentionMs : Nat := 300000
  /-- Variables taken over from the runner's own environment. -/
  envAllowlist : List String := ["PATH"]
  /-- Variables set for every run. -/
  env : Table String := []

namespace Config

/-- The arguments with the script's file and directory filled in, the file first. -/
def renderArgs (c : Config) (entry dir : String) : List String :=
  c.args.map fun a => Text.replace (Text.replace a "\x7bentry\x7d" entry) "\x7bdir\x7d" dir

/-! ## Reading -/

structure Draft where
  program : Option String := none
  args : Option (List String) := none
  entryFile : Option String := none
  timeoutMs : Option Nat := none
  maxOutputBytes : Option Nat := none
  subscriberBuffer : Option Nat := none
  retentionMs : Option Nat := none
  envAllowlist : Option (List String) := none
  env : Option (Table String) := none

open Json.Reader

def readStrings (room : Nat) : Json.Reader (List String) := list room fun _ => string

def readEnv (room : Nat) : Json.Reader (Table String) :=
  table room (fun (t : Table String) key v => t.insert key v) [] fun _ => string

def record : Record Draft Config where
  name := "struct SimulationConfig"
  empty := {}
  fields := [
    .of "program" Draft.program (fun v s => { s with program := some v }) fun _ => string,
    .of "args" Draft.args (fun v s => { s with args := some v }) readStrings,
    .of "entryFile" Draft.entryFile (fun v s => { s with entryFile := some v }) fun _ => string,
    .of "timeoutMs" Draft.timeoutMs (fun v s => { s with timeoutMs := some v })
      fun _ => natural "u64",
    .of "maxOutputBytes" Draft.maxOutputBytes (fun v s => { s with maxOutputBytes := some v })
      fun _ => natural "usize",
    .of "subscriberBuffer" Draft.subscriberBuffer (fun v s => { s with subscriberBuffer := some v })
      fun _ => natural "usize",
    .of "retentionMs" Draft.retentionMs (fun v s => { s with retentionMs := some v })
      fun _ => natural "u64",
    .of "envAllowlist" Draft.envAllowlist (fun v s => { s with envAllowlist := some v }) readStrings,
    .of "env" Draft.env (fun v s => { s with env := some v }) readEnv]
  close _ s :=
    let default : Config := {}
    .ok {
      program := s.program.getD default.program
      args := s.args.getD default.args
      entryFile := s.entryFile.getD default.entryFile
      timeoutMs := s.timeoutMs.getD default.timeoutMs
      maxOutputBytes := s.maxOutputBytes.getD default.maxOutputBytes
      subscriberBuffer := s.subscriberBuffer.getD default.subscriberBuffer
      retentionMs := s.retentionMs.getD default.retentionMs
      envAllowlist := s.envAllowlist.getD default.envAllowlist
      env := s.env.getD default.env }

/-- The configuration that a document describes; fields left out have their defaults. -/
def parse (text : String) : Except Json.Fault Config := document (Json.Reader.record record) text

end Config

end Flowline.Simulation
