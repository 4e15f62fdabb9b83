import Flowline.Editor
import Flowline.Proofs.Compile.Machines
import Flowline.Proofs.Compile.Secrecy
import Flowline.Proofs.Pipeline.Document
import Flowline.Service

/-!
# The editor answers as the service does

The editor knows the names of the secrets, the service also their values.  From a document the editor
makes what the service makes of the stored pipeline: the same diagnostics, the same error, or the same
script with the same warnings.  This takes for granted that both count to the same number.  An editor in a
browser counts to `Text.maxHalfWord` and the service to `Text.maxWord`; then the diagnostics, errors and
warnings are still the same, and so is the script unless a name along some path spells a number between the
two.
-/

namespace Flowline

open Json Json.Reader

/-- The error of a build as the editor shows it, or its script. -/
def Editor.Answer.ofBuild : Except BuildError Compiled → Editor.Answer
  | .error (.invalid diagnostics) => .invalid diagnostics
  | .error (.failed why) => .problem (.ofCompileError why)
  | .ok compiled => .script compiled.code compiled.warnings

/-! ## The names of secrets -/

/-- Every list of names has a text that the editor reads. -/
theorem Editor.secretNames_strings (names : List String) :
    Editor.secretNames (Json.strings names).render = .ok names := by
  have hchars : (Json.strings names).render.toList = '[' :: commaList ']' (names.map quoteChars) := by
    rw [Json.render, String.toList_ofList, Json.strings, chars_array, List.map_map]
    rfl
  have halike :
      Reads (list maxDepth fun _ => Json.Reader.string) (Json.strings names).render.toList names := by
    rw [hchars]
    exact reads_list (fun s _ => reads_string s) fun s _ => ⟨'"', _, rfl, rfl, by decide⟩
  rw [secretNames, if_neg]
  · exact document_of_reads halike
  · rw [Text.isAllBlank, hchars]
    simp [Text.isBlank]

theorem Secrets.has_declared (names : List String) (name : String) :
    (Secrets.declared names).has name = true ↔ name ∈ names := List.contains_iff_mem

namespace Editor

variable {document secrets : String} {p : Pipeline} {names : List String}

/-- The editor builds what a document describes with the built-in kinds, the standard chains and the names
of the secrets. -/
theorem compileFor_eq (largest : ℕ) (hparse : Pipeline.parse document = .ok p)
    (hnames : secretNames secrets = .ok names) : compileFor largest document secrets =
      .ofBuild ((Catalog.builtinFor largest).build ⟨Secrets.declared names, Chains.standard⟩ p) := by
  have hschemas : (Catalog.builtinFor largest).schemas = Builtin.schemas := rfl
  rw [compileFor, hparse]
  dsimp only
  rw [hnames, Catalog.build, hschemas]
  dsimp only
  split
  · rfl
  · cases (Catalog.builtinFor largest).compile ⟨Secrets.declared names, Chains.standard⟩ p with
    | error why => rfl
    | ok compiled => rfl

/-- An answer without the text of the script. -/
def Answer.withoutCode : Answer → Answer
  | .script _ warnings => .script "" warnings
  | .invalid diagnostics => .invalid diagnostics
  | .problem q => .problem q

/-- What the editor answers says the same as what the service answers. -/
structure Answer.SameAs (answer : Answer) (served : Except ServiceError Compiled) : Prop where
  invalid : ∀ diagnostics,
    answer = .invalid diagnostics ↔ served = .error (.build (.invalid diagnostics))
  problem : ∀ q, answer = .problem q ↔
    ∃ why, served = .error (.build (.failed why)) ∧ q = ⟨why.code, why.message, why.node?⟩
  script : ∀ code warnings, answer = .script code warnings ↔
    ∃ compiled, served = .ok compiled ∧ compiled.code = code ∧ compiled.warnings = warnings

theorem Answer.sameAs_ofBuild (built : Except BuildError Compiled) :
    (Answer.ofBuild built).SameAs (built.mapError ServiceError.build) := by
  rcases built with (diagnostics | why) | compiled
  · constructor <;> simp [ofBuild, Except.mapError]
  · constructor <;> simp [ofBuild, Except.mapError, Problem.ofCompileError, eq_comm]
  · constructor <;> simp [ofBuild, Except.mapError]

/-- What two builds come to says the same, of the script or of all but its text. -/
theorem Answer.sameAs_of_endsAlike {built other : Except BuildError Compiled}
    (h : EndsAlike (fun made made' => made.withoutCode = made'.withoutCode) built other) :
    (Answer.ofBuild built).withoutCode.SameAs
      ((other.mapError ServiceError.build).map Compiled.withoutCode) := by
  have hsame := sameAs_ofBuild (other.map Compiled.withoutCode)
  rcases h.error_or_ok with ⟨e, rfl, rfl⟩ | ⟨made, made', rfl, rfl, hmade⟩
  · cases e with
    | invalid diagnostics => exact hsame
    | failed why => exact hsame
  · have hwarnings : made.warnings = made'.warnings := (congrArg Compiled.warnings hmade :)
    rw [ofBuild, withoutCode, hwarnings]
    exact hsame

/-- A service whose machine counts to `largest` has stored the pipeline that a document describes, and has the
secrets whose names the editor is given. -/
structure Faces (largest : ℕ) (document secrets : String) (p : Pipeline) (s : Service) (id : String) :
    Prop where
  document : Pipeline.parse document = .ok p
  stored : s.store.get? id = some p
  secrets : ∃ names, secretNames secrets = .ok names ∧ ∀ name, s.secrets.has name = true ↔ name ∈ names
  catalog : s.catalog = Catalog.builtinFor largest
  chains : s.chains = Chains.standard

/-- The service builds what the editor does, on its own machine. -/
theorem Faces.builds {largest : ℕ} {s : Service} {id : String}
    (h : Faces largest document secrets p s id) :
    ∃ r, (∀ here, compileFor here document secrets = .ofBuild ((Catalog.builtinFor here).build r p)) ∧
      s.compile id = ((Catalog.builtinFor largest).build r p).mapError ServiceError.build := by
  obtain ⟨names, hnames, hhas⟩ := h.secrets
  have halike : Resources.SameNames ⟨Secrets.declared names, Chains.standard⟩ s.resources :=
    { secrets := fun name => by
        rw [Bool.eq_iff_iff, Secrets.has_declared, ← hhas]
        rfl
      chains := h.chains.symm }
  refine ⟨_, fun here => compileFor_eq here h.document hnames, ?_⟩
  rw [Service.compile_of_stored h.stored, Service.build_eq, h.catalog, Catalog.build_of_sameNames halike]

end Editor

/-! ## Agreement -/

/-- The editor and the service make the same of a pipeline, and neither looks at the value of a secret. -/
structure Editor.Agreement : Prop where
  /-- From a document and the names of the secrets the editor makes what the service makes of the stored
  pipeline, if both count to the same number. -/
  same : ∀ (largest : ℕ) (document secrets : String) (p : Pipeline) (s : Service) (id : String),
    Editor.Faces largest document secrets p s id →
      (Editor.compileFor largest document secrets).SameAs (s.compile id)
  /-- If they do not, it makes the same of every pipeline in which no name along a path spells a number that
  one of them alone counts to, -/
  across : ∀ (here there : ℕ) (document secrets : String) (p : Pipeline) (s : Service) (id : String),
    Editor.Faces there document secrets p s id → p.AccessedAlike here there →
      (Editor.compileFor here document secrets).SameAs (s.compile id)
  /-- and of any other what differs from it in the text of the script alone. -/
  outcome : ∀ (here there : ℕ) (document secrets : String) (p : Pipeline) (s : Service) (id : String),
    Editor.Faces there document secrets p s id →
      (Editor.compileFor here document secrets).withoutCode.SameAs
        ((s.compile id).map Compiled.withoutCode)
  /-- The editor can be given any list of names. -/
  names : ∀ names, ∃ secrets, Editor.secretNames secrets = .ok names
  /-- Services whose secrets have the same names, whatever their values, answer alike. -/
  secrecy : ∀ s t : Service, s.store = t.store → s.catalog = t.catalog → s.chains = t.chains →
    (∀ name, s.secrets.has name = t.secrets.has name) →
    (∀ p, s.build p = t.build p) ∧ ∀ id, s.compile id = t.compile id

/-- A request with a secret of whose answer one item is noted. -/
def Catalog.excerpt : Pipeline where
  id := "excerpt"
  name := "Excerpt"
  version := 1
  nodes := [
    ⟨"hook", .trigger, "http-trigger", [("method", .string "POST")], .ready, none⟩,
    ⟨"ask", .capability, "http-fetch", [("authSecret", .string "token"), ("method", .string "GET"),
      ("url", .string "https://example.com")], .ready, none⟩,
    ⟨"pick", .logic, "json-parse", [("path", .string "items.7")], .ready, none⟩,
    ⟨"note", .logic, "log", [("message", .string "item")], .ready, none⟩]
  edges := [⟨none, "hook", "payload", "ask", "in"⟩, ⟨none, "ask", "body", "pick", "in"⟩,
    ⟨none, "pick", "value", "note", "in"⟩]

end Flowline
