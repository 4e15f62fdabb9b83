import Flowline.Proofs.Compile.WellScoped
import Flowline.Proofs.Script.Comments
import Flowline.Proofs.Validation.WellFormed

/-!
# The comments of a script

A script begins with a comment that names the pipeline, and has a comment that names the node in front of
each step; the step of an http trigger has one that names its path.  Whatever the names are, no line feed
and no carriage return of theirs gets into the script, but a separator does and ends the comment.
-/

namespace Flowline

open Script Text

/-! ## Handlers -/

theorem Step.comments_lines (s : Step) : comments s.lines = [] := by
  have hlines : ∀ texts : List String, comments (texts.map line) = [] :=
    comments_map fun _ => rfl
  have hvalue : ∀ (f : String → String) (v : Option String),
      comments ((v.map fun v => line (f v)).toList) = [] := by
    intro f v
    cases v <;> rfl
  unfold Step.lines
  split
  · simp [hlines, hvalue]
  · simp [hlines, hvalue]

theorem Step.comments_linesFrom (index : ℕ) (steps : List Step) :
    comments (linesFrom index steps) = (steps.zipIdx index).map fun (s, i) => s.comment i := by
  induction steps generalizing index with
  | nil => rfl
  | cons s steps ih =>
    rw [linesFrom, List.zipIdx_cons, List.map_cons, ← ih, Step.comment, comments_comment,
      comments_append, s.comments_lines, comments_blank, List.nil_append]
    rfl

/-- The comments of a handler name its nodes, in order and numbered from one. -/
theorem Handler.comments_lines (h : Handler) :
    comments h.lines = (h.steps.zipIdx 1).map fun (s, i) => (s.comment i).deeper := by
  unfold Handler.lines
  rw [comments_block, comments_append, Step.comments_linesFrom, comments_line, comments_nil,
    List.append_nil, indent, List.map_map]
  rfl

/-- A handler stands among some lines, and its steps stand in it one after the other, each behind a comment
with its number and its node.  There are no comments but these. -/
structure Handler.WrittenIn (lines : List Line) (h : Handler) : Prop where
  handler : h.lines <:+: lines
  comments : Script.comments h.lines = (h.steps.zipIdx 1).map fun (s, i) => (s.comment i).deeper
  step : ∀ before s after, h.steps = before ++ s :: after → ∃ pre post,
    h.lines = pre ++ (s.comment (before.length + 1)).deeper :: indent s.lines ++ post

theorem Workflow.writtenIn_lines (w : Workflow) {h : Handler} (hh : h ∈ w.handlers) :
    h.WrittenIn w.lines where
  handler := w.lines_infix hh
  comments := h.comments_lines
  step before s after heq := by
    obtain ⟨pre, post, hlines, -⟩ := Handler.lines_eq_comment heq
    exact ⟨pre, post, hlines⟩

/-- Beside the header, a script has no comments but those of its handlers. -/
theorem Workflow.comments_lines (w : Workflow) :
    comments w.lines = header w.pipeline w.version ::
      w.handlers.flatMap fun h => (h.steps.zipIdx 1).map fun (s, i) => (s.comment i).deeper := by
  have himports : ∀ names source, comments (importLines names source) = [] := by
    intro names source
    unfold importLines
    rw [comments_block, comments_map fun _ => rfl, indent_nil]
  have hprelude : comments preludeLines = [] := by
    unfold preludeLines
    refine comments_map (fun text => ?_) prelude
    split <;> rfl
  have hinit : comments (initLines w.handlers) = [] := by
    have hregistered : (w.handlers.flatMap fun h => comments (registration h)) = [] :=
      List.flatMap_eq_nil_iff.mpr fun _ _ => rfl
    unfold initLines
    rw [comments_block, comments_block, comments_flatMap, hregistered, indent_nil, indent_nil]
  have hmain : comments mainLines = [] := by
    simp [mainLines]
  unfold lines
  simp only [comments_append, himports, hprelude, hinit, hmain, comments_flatMap,
    Handler.comments_lines]
  simp [header]

/-! ## What is on one line -/

theorem oneLine_header (pipeline : String) (version : ℕ) :
    OneLine (header pipeline version).render ↔ Unseparated pipeline := by
  have hopening : Unseparated "Generated by pipeline-compiler for pipeline \"" := by decide
  have hversion : Unseparated "\" at version " := by decide
  have hclosing : Unseparated ". Do not edit." := by decide
  unfold header
  rw [oneLine_comment]
  simp only [unseparated_append, unseparated_flatten, unseparated_toString, hopening, hversion,
    hclosing, true_and, and_true]

theorem oneLine_comment_step {s : Step} (hkind : Unseparated s.node.kind) (index : ℕ) :
    OneLine (s.comment index).deeper.render ↔ Unseparated s.node.id := by
  have hopening : Unseparated "[" := by decide
  have hnumbered : Unseparated "] " := by decide
  have hbefore : Unseparated " (" := by decide
  have hafter : Unseparated ")" := by decide
  unfold Step.comment Line.deeper
  rw [oneLine_comment]
  simp only [unseparated_append, unseparated_toString, hopening, hnumbered, hbefore, hafter, hkind,
    true_and, and_true]

theorem oneLine_pathComment (depth : ℕ) (method path : String) :
    OneLine (Line.code depth (Builtin.pathComment method path)).render ↔
      OneLine method ∧ Unseparated path := by
  have hopening : OneLine "// " := by decide
  have hblank : OneLine " " := by decide
  unfold Line.render Builtin.pathComment
  simp only [oneLine_append, oneLine_indentation, oneLine_flatten, hopening, hblank, true_and,
    and_true]

/-- What a fragment sets up is in the lines of its step, deeper if there is a guard. -/
theorem Step.exists_setup {s : Step} {text : String} (h : text ∈ s.fragment.setup) :
    ∃ depth, .code depth text ∈ s.lines := by
  have hline : line text ∈ s.fragment.setup.map line := List.mem_map_of_mem h
  unfold lines
  by_cases hguards : s.guards.isEmpty = true
  · refine ⟨0, ?_⟩
    rw [if_pos hguards]
    exact List.mem_append_left _ (List.mem_append_left _ hline)
  · refine ⟨1, ?_⟩
    rw [if_neg hguards]
    refine List.mem_append_right _ ?_
    exact mem_block (List.mem_append_left _ (List.mem_append_left _ hline)) _ _

theorem Workflow.exists_setup {w : Workflow} {h : Handler} {s : Step} {text : String}
    (hh : h ∈ w.handlers) (hs : s ∈ h.steps) (htext : text ∈ s.fragment.setup) :
    ∃ depth, .code depth text ∈ w.lines := by
  obtain ⟨depth, hdepth⟩ := s.exists_setup htext
  obtain ⟨before, after, hsteps⟩ := List.append_of_mem hs
  obtain ⟨pre, post, hlines, -⟩ := Handler.lines_eq hsteps
  have hdeeper : .code (depth + 1) text ∈ indent s.lines := List.mem_map_of_mem hdepth
  have hhandler : .code (depth + 1) text ∈ h.lines := by
    rw [hlines]
    exact List.mem_append_left _ (List.mem_append_right _ hdeeper)
  exact ⟨depth + 1, (w.lines_infix hh).subset hhandler⟩

/-! ## Scripts of built-in kinds -/

/-- What becomes of the texts of a pipeline in the comments of its script. -/
structure Workflow.Commented (w : Workflow) (p : Pipeline) : Prop where
  /-- The comments are the header and one for each step. -/
  comments : comments w.lines = header p.id w.version ::
    w.handlers.flatMap fun h => (h.steps.zipIdx 1).map fun (s, i) => (s.comment i).deeper
  nodes : ∀ h ∈ w.handlers, ∀ s ∈ h.steps, s.node ∈ p.nodes
  /-- The header ends with its line exactly if the id of the pipeline has no separator. -/
  header : OneLine (header p.id w.version).render ↔ Unseparated p.id
  /-- The comment of a step ends with its line exactly if the id of the node has no separator. -/
  step : ∀ h ∈ w.handlers, ∀ s ∈ h.steps, ∀ i,
    OneLine (s.comment i).deeper.render ↔ Unseparated s.node.id
  /-- The comment of an http trigger ends with its line exactly if the method is on one line and the
  path has no separator. -/
  path : ∀ h ∈ w.handlers, ∀ s ∈ h.steps, s.node.kind = "http-trigger" →
    ∀ path, s.node.text? "path" = some path → ∃ depth,
      .code depth (Builtin.pathComment (s.node.textOr "method" "POST") path) ∈ w.lines ∧
      (OneLine (Line.code depth (Builtin.pathComment (s.node.textOr "method" "POST") path)).render ↔
        OneLine (s.node.textOr "method" "POST") ∧ Unseparated path)

namespace Catalog

variable {r : Resources} {p : Pipeline} {w : Workflow} {compiled : Compiled}

theorem unseparated_of_emitter {kind : String} {emit : Emitter}
    (h : builtin.emitters.get? kind = some emit) : Unseparated kind := by
  have hall : ∀ kind ∈ Builtin.emitters.map Prod.fst, Unseparated kind := by decide
  exact hall kind (List.mem_map_of_mem (Table.mem_of_get? h))

theorem pipeline_of_workflow {plan : Plan} (h : plan.workflow = .ok w) :
    w.pipeline = plan.pipeline.id := by
  obtain ⟨-, -, made, -, rfl⟩ := Plan.workflow_eq_ok_iff.mp h
  rfl

/-- Every step of a handler has been made from a node by the emitter of its kind. -/
theorem emitted_of_workflow {c : Catalog} (h : c.workflow r p = .ok w) :
    w.pipeline = p.id ∧ ∀ handler ∈ w.handlers, ∀ s ∈ handler.steps, s.node ∈ p.nodes ∧
      ∃ emit, c.emitters.get? s.node.kind = some emit ∧ emit s.node s.inputs = .ok s.fragment := by
  obtain ⟨plan, rfl, rfl, rfl, hw⟩ := plan_of_workflow h
  obtain ⟨-, hhandlers⟩ := Plan.handlers_of_workflow hw
  refine ⟨pipeline_of_workflow hw, fun handler hhandler s hs => ?_⟩
  obtain ⟨warnings, hmade⟩ := hhandlers handler hhandler
  obtain ⟨-, hsteps⟩ := Plan.madeOf_handler hmade
  obtain ⟨before, after, heq⟩ := List.append_of_mem hs
  have hnode : s.node ∈ plan.memberNodes (plan.members handler.trigger) := by
    rw [← hsteps.nodes]
    exact List.mem_map_of_mem hs
  exact ⟨Plan.mem_nodes_of_memberNodes hnode, (hsteps.made before s after heq).emitted⟩

/-- A script begins with its header. -/
theorem code_eq_of_compile {c : Catalog} (h : c.compile r p = .ok compiled) :
    ∃ rest, compiled.code = (header p.id compiled.version).render ++ "\n" ++ rest := by
  rw [compile, bind_eq_ok_iff] at h
  obtain ⟨w, hw, h⟩ := h
  obtain rfl := (Except.ok.inj h).symm
  obtain ⟨hpipeline, -⟩ := emitted_of_workflow hw
  obtain ⟨rest, hlines⟩ : ∃ rest, w.lines = header w.pipeline w.version :: rest := ⟨_, rfl⟩
  refine ⟨renderLines rest, ?_⟩
  dsimp only
  rw [hlines, hpipeline, renderLines, List.map_cons, String.join_cons]
  rfl

theorem commented_of_workflow (h : builtin.workflow r p = .ok w) : w.Commented p := by
  obtain ⟨hpipeline, hsteps⟩ := emitted_of_workflow h
  constructor
  case comments =>
    rw [w.comments_lines, hpipeline]
  case nodes => exact fun handler hhandler s hs => (hsteps handler hhandler s hs).1
  case header => exact oneLine_header p.id w.version
  case step =>
    intro handler hhandler s hs i
    obtain ⟨-, emit, hemit, -⟩ := hsteps handler hhandler s hs
    exact oneLine_comment_step (unseparated_of_emitter hemit) i
  case path =>
    intro handler hhandler s hs hkind path hpath
    obtain ⟨-, emit, hemit, hfragment⟩ := hsteps handler hhandler s hs
    have hhttp : builtin.emitters.get? "http-trigger" =
        some fun n i => .ok (Builtin.emitHttpTrigger n i) := rfl
    rw [hkind, hhttp] at hemit
    obtain rfl := Option.some.inj hemit
    have hsetup : Builtin.pathComment (s.node.textOr "method" "POST") path ∈ s.fragment.setup := by
      rw [← Except.ok.inj hfragment]
      simp [Builtin.emitHttpTrigger, hpath]
    obtain ⟨depth, hdepth⟩ := Workflow.exists_setup hhandler hs hsetup
    exact ⟨depth, hdepth, oneLine_pathComment depth _ path⟩

/-- The method of an http trigger in a valid pipeline is one of the known ones. -/
theorem oneLine_method {n : Node}
    (hvalid : Diagnostic.isCompilable (p.validate builtin.schemas) = true) (hn : n ∈ p.nodes)
    (hkind : n.kind = "http-trigger") : OneLine (n.textOr "method" "POST") := by
  have hknown : ∀ m ∈ Builtin.httpMethods, OneLine m := by decide
  obtain ⟨schema, hschema, -, hadmits⟩ :=
    (Pipeline.wellFormed_of_isCompilable hvalid).conforms n hn
  have hhttp : builtin.schemas.get? "http-trigger" = some Builtin.httpTrigger := rfl
  rw [hkind, hhttp] at hschema
  obtain rfl := Option.some.inj hschema
  have hadmitted := hadmits _ List.mem_cons_self
  unfold Node.textOr
  cases htext : n.text? "method" with
  | none =>
    rw [Option.getD_none]
    decide
  | some m =>
    rw [Option.getD_some]
    obtain ⟨hm, hne⟩ := Option.filter_eq_some_iff.mp htext
    obtain ⟨s, hs, rfl⟩ := Option.map_eq_some_iff.mp hm
    obtain ⟨x, hx, hstring⟩ := Option.bind_eq_some_iff.mp hs
    obtain ⟨hx, -⟩ := Option.filter_eq_some_iff.mp hx
    cases x with
    | string t =>
      obtain rfl := Option.some.inj hstring
      have hpresent : Present (n.config.get? "method") := by
        refine ⟨.string t, hx, nofun, fun s hs => ?_⟩
        obtain rfl := Json.string.inj hs
        simpa using hne
      have hchecked : (if Builtin.httpMethods.contains (Text.trim t) then Except.ok ()
          else Except.error (Mismatch.notAllowed (Text.trim t) Builtin.httpMethods)) = .ok () :=
        hadmitted.typed _ hx hpresent
      split at hchecked
      · rename_i hallowed
        exact hknown _ (List.contains_iff_mem.mp hallowed)
      · cases hchecked
    | _ => cases hstring

/-- The comments of a script of built-in kinds end with their lines exactly if there are no separators
in the texts that they are about, and the method of an http trigger is on one line. -/
theorem commented_of_compile (h : builtin.compile r p = .ok compiled) :
    ∃ w, builtin.workflow r p = .ok w ∧ compiled.code = renderLines w.lines ∧ w.Commented p ∧
      (Diagnostic.isCompilable (p.validate builtin.schemas) = true →
        ∀ n ∈ p.nodes, n.kind = "http-trigger" → OneLine (n.textOr "method" "POST")) := by
  obtain ⟨w, hw, hcode⟩ := workflow_of_compile h
  refine ⟨w, hw, hcode, commented_of_workflow hw, fun hvalid n hn hkind => ?_⟩
  exact oneLine_method hvalid hn hkind

/-- The id of the pipeline and a path have text after a separator. -/
def separated : Pipeline where
  id := "note\u2028runner.stop(); //"
  name := "Separated"
  version := 1
  nodes := [
    ⟨"hook", .trigger, "http-trigger",
      [("method", .string "POST"), ("path", .string "/note\u2029stop(); //")], .ready, none⟩,
    ⟨"note", .logic, "log", [("message", .string "seen")], .ready, none⟩]
  edges := [⟨none, "hook", "payload", "note", "in"⟩]

theorem exists_compile_separated :
    ∃ compiled, builtin.compile ⟨Secrets.declared [], Chains.standard⟩ separated = .ok compiled := by
  rw [← isOk_iff]
  decide +kernel

/-- The first line of the script of a valid pipeline ends within the id of the pipeline. -/
theorem separated_header :
    separated.validate builtin.schemas = [] ∧
      ∃ (compiled : Compiled) (rest : String),
        builtin.compile ⟨Secrets.declared [], Chains.standard⟩ separated = .ok compiled ∧
        compiled.code = (header separated.id compiled.version).render ++ "\n" ++ rest ∧
        ¬ OneLine (header separated.id compiled.version).render := by
  have hid : ¬ Unseparated separated.id := by decide
  obtain ⟨compiled, hcompile⟩ := exists_compile_separated
  obtain ⟨rest, hcode⟩ := code_eq_of_compile hcompile
  refine ⟨by decide +kernel, compiled, rest, hcompile, hcode, ?_⟩
  rwa [oneLine_header]

/-- Of its comments only those of the steps end with their lines. -/
theorem separated_commented :
    ∃ (compiled : Compiled) (w : Workflow),
      builtin.compile ⟨Secrets.declared [], Chains.standard⟩ separated = .ok compiled ∧
      compiled.code = renderLines w.lines ∧ w.Commented separated ∧
      ¬ OneLine (header separated.id w.version).render ∧
      ∀ h ∈ w.handlers, ∀ s ∈ h.steps, ∀ i, OneLine (s.comment i).deeper.render := by
  have hid : ¬ Unseparated separated.id := by decide
  have hids : ∀ n ∈ separated.nodes, Unseparated n.id := by decide
  obtain ⟨compiled, hcompile⟩ := exists_compile_separated
  obtain ⟨w, -, hcode, hcommented, -⟩ := commented_of_compile hcompile
  refine ⟨compiled, w, hcompile, hcode, hcommented, ?_, fun h hh s hs i => ?_⟩
  · rwa [hcommented.header]
  · rw [hcommented.step h hh s hs i]
    exact hids _ (hcommented.nodes h hh s hs)

end Catalog

end Flowline
