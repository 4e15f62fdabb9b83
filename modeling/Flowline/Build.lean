import Flowline.Compile
import Flowline.Validation

/-!
# Building pipelines

A pipeline is built by validating it and then compiling it; what validation warns of comes first among
the warnings of the script.
-/

namespace Flowline

/-- Why a pipeline is not built. -/
inductive BuildError
  | invalid (diagnostics : List Diagnostic)
  | failed (why : CompileError)

def BuildError.message : BuildError → String
  | invalid ds =>
    "pipeline failed validation with " ++ toString (ds.filter Diagnostic.isError).length ++ " error(s)"
  | failed why => why.message

/-- The script of a valid pipeline. -/
def Catalog.build (c : Catalog) (r : Resources) (p : Pipeline) : Except BuildError Compiled :=
  let diagnostics := p.validate c.schemas
  if ! Diagnostic.isCompilable diagnostics then .error (.invalid diagnostics)
  else
    match c.compile r p with
    | .error why => .error (.failed why)
    | .ok compiled => .ok { compiled with warnings := Diagnostic.merge diagnostics compiled.warnings }

end Flowline
