import Flowline.Catalog
import Flowline.Compile
import Flowline.Pipeline.Document
import Flowline.Validation

/-!
# The editor

What an editor of pipelines asks for while somebody works on one: documents are checked and compiled with
the built-in kinds and the standard chains.  Of secrets only the names are known.  An editor in a browser
runs on a 32-bit machine, which counts to `Text.maxHalfWord`; one that is built like the service counts to
`Text.maxWord`.
-/

namespace Flowline.Editor

/-- Something that keeps a request from being answered. -/
structure Problem where
  code : String
  message : String
  node : Option String

def Problem.ofFault (fault : Json.Fault) : Problem := ⟨"P001", fault.documentMessage, none⟩

def Problem.ofCompileError (e : CompileError) : Problem := ⟨e.code, e.message, e.node?⟩

inductive Checked
  | checked (diagnostics : List Diagnostic)
  | problem (p : Problem)

inductive Answer
  | script (code : String) (warnings : List Diagnostic)
  | invalid (diagnostics : List Diagnostic)
  | problem (p : Problem)

/-- The diagnostics of the pipeline that a document describes. -/
def validate (document : String) : Checked :=
  match Pipeline.parse document with
  | .error fault => .problem (.ofFault fault)
  | .ok p => .checked (p.validate Builtin.schemas)

/-- The diagnostics of the node that a document describes. -/
def validateNode (document : String) : Checked :=
  match Node.parse document with
  | .error fault => .problem (.ofFault fault)
  | .ok n => .checked (Validation.node Builtin.schemas n)

/-- The names in a list of secrets; there are none in a text without anything but blanks. -/
def secretNames (text : String) : Except Json.Fault (List String) :=
  if Text.isAllBlank text then .ok []
  else Json.Reader.document (fun room => Json.Reader.list room fun _ => Json.Reader.string) text

/-- The script of the pipeline that a document describes, made on a machine that counts to `largest`. -/
def compileFor (largest : Nat) (document secrets : String) : Answer :=
  match Pipeline.parse document with
  | .error fault => .problem (.ofFault fault)
  | .ok p =>
    match secretNames secrets with
    | .error fault => .problem (.ofFault fault)
    | .ok names =>
      let diagnostics := p.validate Builtin.schemas
      if ! Diagnostic.isCompilable diagnostics then .invalid diagnostics
      else
        match (Catalog.builtinFor largest).compile ⟨Secrets.declared names, Chains.standard⟩ p with
        | .ok compiled => .script compiled.code (Diagnostic.merge diagnostics compiled.warnings)
        | .error why => .problem (.ofCompileError why)

/-- The script that is made on a 64-bit machine. -/
def compile (document secrets : String) : Answer := compileFor Text.maxWord document secrets

end Flowline.Editor
