import Flowline.Handler
import Flowline.Script.Prelude

/-!
# Compiling pipelines

A pipeline becomes a script with a handler for each trigger.  `Catalog.compile` fails if no runnable
script can be made; what is wrong in a part that leads to no effect is only warned of.
-/

namespace Flowline

/-- The script of a pipeline of some version. -/
structure Compiled where
  pipeline : String
  version : Nat
  code : String
  warnings : List Diagnostic

/-- The handlers of a pipeline. -/
structure Workflow where
  pipeline : String
  version : Nat
  handlers : List Handler
  warnings : List Diagnostic

/-! ## Code -/

namespace Script

def importLines (names : List String) (source : String) : List Line :=
  block "import \x7b" (names.map fun n => line (n ++ ",")) ("\x7d from \"" ++ source ++ "\";")

def preludeLines : List Line :=
  prelude.map fun text => if text = "" then .blank else line text

/-- The comment at the top of a script. -/
def header (pipeline : String) (version : Nat) : Line :=
  .comment 0 ("Generated by pipeline-compiler for pipeline \"" ++ Text.flatten pipeline ++
    "\" at version " ++ toString version ++ ". Do not edit.")

/-- The registration of a handler. -/
def registration (h : Handler) : List Line :=
  [line "cre.handler("] ++ indent [line (h.hook.capability ++ ","), line (h.name ++ ",")] ++
    [line "),"]

/-- The function that registers every handler. -/
def initLines (handlers : List Handler) : List Line :=
  block "const initWorkflow = (config: Config) => \x7b"
    (block "return [" (handlers.flatMap registration) "];") "\x7d;"

def mainLines : List Line :=
  block "export async function main() \x7b"
    [line "const runner = await Runner.newRunner<Config>();", line "await runner.run(initWorkflow);"]
    "\x7d" ++ [.blank, line "main();"]

end Script

open Script in
/-- The lines of the script of a workflow. -/
def Workflow.lines (w : Workflow) : List Line :=
  [header w.pipeline w.version, .blank] ++
    importLines toolkitNames "@chainlink/cre-sdk" ++ importLines contractNames "viem" ++
    [.blank, line "type Config = Record<string, never>;", .blank] ++ preludeLines ++ [.blank] ++
    w.handlers.flatMap (fun h => h.lines ++ [.blank]) ++ initLines w.handlers ++ [.blank] ++ mainLines

/-! ## Compiling -/

namespace Plan

variable (plan : Plan)

/-- The first node, in topological order, of a kind without an emitter. -/
def unsupported? : Option Node :=
  (plan.order.filterMap plan.pipeline.node?).find? fun n => ! plan.catalog.emitters.has n.kind

/-- The handlers of all triggers, and the warnings that they raise. -/
def handlers : Except CompileError (List Handler × List Diagnostic) := do
  let critical := plan.critical
  let made ← plan.triggers.mapM (plan.handler critical)
  return (made.map Prod.fst, made.flatMap Prod.snd)

/-- The workflow of a plan; no warning is given twice. -/
def workflow : Except CompileError Workflow := do
  if plan.triggers.isEmpty then throw .noTrigger
  if let some n := plan.unsupported? then throw (.unsupportedKind n.id n.kind)
  let (handlers, warnings) ← plan.handlers
  return ⟨plan.pipeline.id, plan.pipeline.version, handlers, Diagnostic.merge [] warnings⟩

end Plan

namespace Catalog

/-- The workflow of a pipeline. -/
def workflow (c : Catalog) (r : Resources) (p : Pipeline) : Except CompileError Workflow :=
  let g := Graph.ofPipeline p
  match sorted : g.order with
  | .error cycle => .error (.cycle cycle)
  | .ok order => Plan.workflow ⟨p, g, order, c, r, rfl, sorted⟩

/-- The script of a pipeline.  The pipeline need not have been validated. -/
def compile (c : Catalog) (r : Resources) (p : Pipeline) : Except CompileError Compiled := do
  let w ← c.workflow r p
  return ⟨w.pipeline, w.version, Script.renderLines w.lines, w.warnings⟩

end Catalog

end Flowline
