import Flowline.Emitter.Builtin
import Flowline.Kind.Builtin

/-!
# Catalogs

The kinds of nodes that a pipeline may use: their schemas and their emitters.
-/

namespace Flowline

structure Catalog where
  schemas : Schemas
  emitters : Emitters

namespace Catalog

def empty : Catalog := ⟨[], []⟩

/-- The built-in kinds, for a compiler whose machine counts to `largest`. -/
def builtinFor (largest : Nat) : Catalog := ⟨Builtin.schemas, Builtin.emittersFor largest⟩

/-- The built-in kinds on a 64-bit machine. -/
def builtin : Catalog := builtinFor Text.maxWord

def addSchema (c : Catalog) (schema : KindSchema) : Catalog :=
  { c with schemas := c.schemas.register schema }

def addEmitter (c : Catalog) (kind : String) (emitter : Emitter) : Catalog :=
  { c with emitters := c.emitters.insert kind emitter }

/-- Adds a kind with its emitter. -/
def add (c : Catalog) (schema : KindSchema) (emitter : Emitter) : Catalog :=
  (c.addEmitter schema.kind emitter).addSchema schema

end Catalog

end Flowline
