import Flowline.Kind.Builtin
import Flowline.Proofs.Pipeline.Readiness

/-!
# The state of a node through its configurations

Edits that do not touch a node leave it as it is; each new configuration is accepted by validation or not.  After
any number of them the state of the node says three things (`Stated`): whether the last one is accepted, whether
the node had been ready before, and whether anything is set.  Only the second needs the history, and the state
before the last configuration tells it (`Stated.hasBeenReady_iff`), so that `Stated` goes on from one configuration
to the next (`history_after`).
-/

namespace Flowline

/-- A node in this state is ready or was. -/
def NodeState.hasBeenReady : NodeState → Bool
  | ready => true
  | error => true
  | draft => false
  | configured => false

/-- No field has a value that counts. -/
def Members.Blank (config : Members) : Prop := ∀ field ∈ config, isMissing (some field.2) = true

namespace Schemas

variable {schemas : Schemas} {n : Node} {config last : Members} {earlier : List Members} {state : NodeState}

/-- Validation of a node with some configuration finds no error. -/
def Accepts (schemas : Schemas) (n : Node) (config : Members) : Prop :=
  Diagnostic.isCompilable (Validation.node schemas { n with config }) = true

/-- A node was ready from the start, or some configuration made it ready. -/
def EverReady (schemas : Schemas) (n : Node) (configs : List Members) : Prop :=
  n.state.hasBeenReady = true ∨ ∃ config ∈ configs, schemas.Accepts n config

/-- What the state of a node is after some configurations and a last one. -/
structure Stated (schemas : Schemas) (n : Node) (earlier : List Members) (last : Members)
    (state : NodeState) : Prop where
  ready : state = .ready ↔ schemas.Accepts n last
  error : state = .error ↔ ¬ schemas.Accepts n last ∧ schemas.EverReady n earlier
  draft : state = .draft ↔ ¬ schemas.Accepts n last ∧ ¬ schemas.EverReady n earlier ∧ last.Blank
  configured : state = .configured ↔
    ¬ schemas.Accepts n last ∧ ¬ schemas.EverReady n earlier ∧ ¬ last.Blank

/-- What makes a node ready is what validation asks for, whatever the state of the node. -/
theorem isValid_iff_accepts :
    schemas.isValid { n with config, state } = true ↔ schemas.Accepts n config := by
  rw [isValid_iff_conforms, ← Validation.isCompilable_node_iff]
  rfl

theorem everReady_concat :
    schemas.EverReady n (earlier ++ [last]) ↔ schemas.EverReady n earlier ∨ schemas.Accepts n last := by
  simp only [EverReady, List.mem_append, List.mem_singleton, or_and_right, exists_or, exists_eq_left, or_assoc]

/-- The state tells whether the node has ever been ready. -/
theorem Stated.hasBeenReady_iff (h : Stated schemas n earlier last state) :
    state.hasBeenReady = true ↔ schemas.EverReady n (earlier ++ [last]) := by
  have hstate : state.hasBeenReady = true ↔ state = .ready ∨ state = .error := by
    cases state <;> simp [NodeState.hasBeenReady]
  rw [hstate, h.ready, h.error, everReady_concat]
  by_cases hlast : schemas.Accepts n last
  · simp [hlast]
  · simp [hlast]

theorem readiness_eq (n : Node) :
    schemas.readiness n =
      if schemas.isValid n then .ready
      else if n.state.hasBeenReady then .error
      else if n.config.all (fun (_, v) => isMissing (some v)) then .draft else .configured := by
  unfold readiness
  split
  · rfl
  · cases n.state <;> rfl

/-- The state that a last configuration gives, if the one before tells whether the node was ever ready. -/
theorem stated_readiness (last : Members)
    (hstate : state.hasBeenReady = true ↔ schemas.EverReady n earlier) :
    Stated schemas n earlier last (schemas.readiness { n with config := last, state }) := by
  have hblank : last.all (fun (_, v) => isMissing (some v)) = true ↔ last.Blank := List.all_eq_true
  rw [readiness_eq]
  by_cases hvalid : schemas.Accepts n last
  · rw [if_pos (isValid_iff_accepts.mpr hvalid)]
    constructor <;> simp [hvalid]
  · rw [if_neg (mt isValid_iff_accepts.mp hvalid)]
    by_cases hready : schemas.EverReady n earlier
    · rw [if_pos (hstate.mpr hready)]
      constructor <;> simp [hvalid, hready]
    · rw [if_neg (mt hstate.mp hready)]
      by_cases hempty : last.Blank
      · rw [if_pos (hblank.mpr hempty)]
        constructor <;> simp [hvalid, hready, hempty]
      · rw [if_neg (mt hblank.mp hempty)]
        constructor <;> simp [hvalid, hready, hempty]

end Schemas

/-! ## The node of an id -/

section Find

variable {α : Type} {P Q : α → Bool} {f : α → α} {x : α} {xs : List α}

/-- Only the first member that satisfies a condition is changed. -/
theorem exists_modifyFirst (h : xs.find? P = some x) :
    ∃ front back, xs = front ++ x :: back ∧ modifyFirst P f xs = front ++ f x :: back := by
  induction xs with
  | nil => cases h
  | cons y ys ih =>
    by_cases hy : P y = true
    · rw [List.find?_cons_of_pos hy] at h
      obtain rfl := Option.some.inj h
      exact ⟨[], ys, rfl, if_pos hy⟩
    · rw [List.find?_cons_of_neg hy] at h
      obtain ⟨front, back, rfl, hmodify⟩ := ih h
      refine ⟨y :: front, back, rfl, ?_⟩
      rw [modifyFirst, if_neg hy, hmodify]
      rfl

theorem find?_modifyFirst_self (hf : ∀ x, P (f x) = P x) :
    (modifyFirst P f xs).find? P = (xs.find? P).map f := by
  induction xs with
  | nil => rfl
  | cons y ys ih =>
    by_cases hy : P y = true
    · rw [modifyFirst, if_pos hy, List.find?_cons_of_pos ((hf y).trans hy), List.find?_cons_of_pos hy]
      rfl
    · rw [modifyFirst, if_neg hy, List.find?_cons_of_neg hy, List.find?_cons_of_neg hy, ih]

theorem find?_modifyFirst_of_disjoint (hPQ : ∀ x, P x = true → Q x = false) (hf : ∀ x, Q (f x) = Q x) :
    (modifyFirst P f xs).find? Q = xs.find? Q := by
  induction xs with
  | nil => rfl
  | cons y ys ih =>
    by_cases hy : P y = true
    · have hneg := hPQ y hy
      rw [modifyFirst, if_pos hy, List.find?_cons_of_neg (by simp [hf, hneg]),
        List.find?_cons_of_neg (by simp [hneg])]
    · rw [modifyFirst, if_neg hy, List.find?_cons, List.find?_cons, ih]

theorem find?_eraseP_of_disjoint (hPQ : ∀ x, P x = true → Q x = false) :
    (xs.eraseP P).find? Q = xs.find? Q := by
  induction xs with
  | nil => rfl
  | cons y ys ih =>
    by_cases hy : P y = true
    · rw [List.eraseP_cons_of_pos hy, List.find?_cons_of_neg (by simp [hPQ y hy])]
    · rw [List.eraseP_cons_of_neg hy, List.find?_cons, List.find?_cons, ih]

end Find

namespace Pipeline

variable {p q : Pipeline} {n : Node} {id : String} {schemas : Schemas} {edits : List Edit} {e : Edit}

theorem id_disjoint {x : String} (hne : x ≠ id) (n : Node) (hn : decide (n.id = x) = true) :
    decide (n.id = id) = false := by
  rw [decide_eq_false_iff_not, of_decide_eq_true hn]
  exact hne

/-- An edit that does not touch a node leaves it as it is. -/
theorem node?_on_of_not_touches (h : e.touches id = false) (hn : p.node? id = some n) :
    (e.perform.on p).2.node? id = some n := by
  rcases e.refused_or_makes p with ⟨why, hwhy⟩ | ⟨q, hq, hmakes⟩
  · rw [hwhy]
    exact hn
  · rw [hq]
    cases hmakes with
    | addNode m hm =>
      rw [node?, List.find?_append, show p.nodes.find? (·.id = id) = some n from hn]
      rfl
    | removeNode x =>
      have hne : x ≠ id := by simpa [Edit.touches] using h
      rw [node?, find?_eraseP_of_disjoint (id_disjoint hne)]
      exact hn
    | addEdge => exact hn
    | removeEdge => exact hn
    | updateConfig other x config state =>
      have hne : x ≠ id := by simpa [Edit.touches] using h
      have hkept (m : Node) : decide (({ m with config, state } : Node).id = id) = decide (m.id = id) := rfl
      exact (find?_modifyFirst_of_disjoint (id_disjoint hne) hkept).trans hn

/-- A node of a pipeline has been given a configuration, with this answer. -/
structure Configured (schemas : Schemas) (n : Node) (config : Members) (p q : Pipeline)
    (state : NodeState) : Prop where
  answer : state = schemas.readiness { n with config }
  /-- The answer is stored with the configuration. -/
  stored : q.node? n.id = some { n with config, state }
  /-- Every other node stays as it is, where it is. -/
  others : ∃ front back, p.nodes = front ++ n :: back ∧ q.nodes = front ++ { n with config, state } :: back

theorem configured_updateConfig (schemas : Schemas) (config : Members) (hn : p.node? n.id = some n) :
    ∃ state q, (Editing.updateConfig schemas n.id config).on p = (.ok state, q) ∧
      Configured schemas n config p q state := by
  have hfind : p.nodes.find? (·.id = n.id) = some n := hn
  have hkept (state : NodeState) (m : Node) :
      decide (({ m with config, state } : Node).id = n.id) = decide (m.id = n.id) := rfl
  rw [Editing.on_updateConfig, hn]
  refine ⟨_, _, rfl, rfl, ?_, exists_modifyFirst hfind⟩
  refine (find?_modifyFirst_self (hkept _)).trans ?_
  rw [hfind]
  rfl

/-! ## Many edits -/

/-- The configurations that some edits give to a node. -/
def configs (id : String) (edits : List Edit) : List Members :=
  edits.filterMap fun
    | .updateConfig _ x config => if x = id then some config else none
    | _ => none

/-- Edits of a node that only give it configurations, of kinds in one table. -/
def OnlyConfigure (schemas : Schemas) (id : String) (edits : List Edit) : Prop :=
  ∀ e ∈ edits, e.touches id = false ∨ ∃ config, e = .updateConfig schemas id config

theorem configs_concat_of_not_touches (h : e.touches id = false) :
    configs id (edits ++ [e]) = configs id edits := by
  cases e with
  | updateConfig schemas x config =>
    have hne : x ≠ id := by simpa [Edit.touches] using h
    simp [configs, hne]
  | _ => simp [configs]

theorem configs_concat_updateConfig (config : Members) :
    configs id (edits ++ [.updateConfig schemas id config]) = configs id edits ++ [config] := by
  simp [configs]

theorem on_updateConfig_perform {state : NodeState} {config : Members}
    (h : (Editing.updateConfig schemas id config).on p = (.ok state, q)) :
    ((Edit.updateConfig schemas id config).perform.on p).2 = q := by
  rw [Edit.perform, Editing.on_bind, h]
  rfl

/-- What a node is after it was given some configurations. -/
structure Became (schemas : Schemas) (n : Node) (configs : List Members) (m : Node) : Prop where
  /-- Only its configuration and its state may be others. -/
  same : m = { n with config := m.config, state := m.state }
  unconfigured : configs = [] → m = n
  stated : ∀ earlier last, configs = earlier ++ [last] →
    m.config = last ∧ schemas.Stated n earlier last m.state

theorem Became.hasBeenReady_iff {configs : List Members} {m : Node} (h : Became schemas n configs m) :
    m.state.hasBeenReady = true ↔ schemas.EverReady n configs := by
  rcases List.eq_nil_or_concat configs with rfl | ⟨earlier, last, rfl⟩
  · rw [h.unconfigured rfl]
    simp [Schemas.EverReady]
  · rw [List.concat_eq_append] at h ⊢
    exact (h.stated earlier last rfl).2.hasBeenReady_iff

/-- One more configuration. -/
theorem Became.configure {configs : List Members} {m : Node} (h : Became schemas n configs m)
    (config : Members) :
    Became schemas n (configs ++ [config])
      { m with config, state := schemas.readiness { m with config } } := by
  refine ⟨?_, fun hnil => by simp at hnil, fun earlier last hlast => ?_⟩
  · rw [h.same]
  · obtain ⟨rfl, hsame⟩ := List.append_inj' hlast rfl
    obtain rfl : config = last := by simpa using hsame
    rw [h.same]
    exact ⟨rfl, Schemas.stated_readiness config h.hasBeenReady_iff⟩

theorem became_after (hn : p.node? n.id = some n) (hedits : OnlyConfigure schemas n.id edits) :
    ∃ m, (p.after edits).node? n.id = some m ∧ Became schemas n (configs n.id edits) m := by
  induction edits using List.reverseRecOn with
  | nil => exact ⟨n, hn, rfl, fun _ => rfl, fun earlier last h => by simp [configs] at h⟩
  | append_singleton edits e ih =>
    obtain ⟨m, hm, hbecame⟩ := ih fun f hf => hedits f (List.mem_append_left _ hf)
    have hlast : p.after (edits ++ [e]) = (e.perform.on (p.after edits)).2 := after_append p edits [e]
    rw [hlast]
    rcases hedits e (List.mem_append_right _ List.mem_cons_self) with htouches | ⟨config, rfl⟩
    · rw [configs_concat_of_not_touches htouches]
      exact ⟨m, node?_on_of_not_touches htouches hm, hbecame⟩
    · have hid : m.id = n.id := (node?_eq_some hm).2
      obtain ⟨state, q, hon, hconfigured⟩ := configured_updateConfig schemas config (hid ▸ hm)
      rw [hid] at hon
      rw [configs_concat_updateConfig, on_updateConfig_perform hon]
      refine ⟨_, (congrArg q.node? hid.symm).trans hconfigured.stored, ?_⟩
      rw [hconfigured.answer]
      exact hbecame.configure config

/-! ## What editors may rely on -/

/-- What some edits of a pipeline do to a node of which they only set the configuration. -/
structure History (schemas : Schemas) (p : Pipeline) (n : Node) (edits : List Edit) : Prop where
  /-- The state that the node has in the end is that of its configurations. -/
  became : ∃ m, (p.after edits).node? n.id = some m ∧ Became schemas n (configs n.id edits) m
  /-- Every time it is given one, the answer is the state that is stored, and no other node changes. -/
  configured : ∀ before config later, edits = before ++ .updateConfig schemas n.id config :: later →
    ∃ m state q, (p.after before).node? n.id = some m ∧
      (Editing.updateConfig schemas n.id config).on (p.after before) = (.ok state, q) ∧
      q = p.after (before ++ [.updateConfig schemas n.id config]) ∧
      Configured schemas m config (p.after before) q state

/-- Whatever edits do to other nodes, the state of a node is that of the configurations it was given. -/
theorem history_after (hn : p.node? n.id = some n) (hedits : OnlyConfigure schemas n.id edits) :
    History schemas p n edits := by
  refine ⟨became_after hn hedits, ?_⟩
  rintro before config later rfl
  have hbefore : OnlyConfigure schemas n.id before := fun e he => hedits e (List.mem_append_left _ he)
  obtain ⟨m, hm, -⟩ := became_after hn hbefore
  have hid : m.id = n.id := (node?_eq_some hm).2
  obtain ⟨state, q, hon, hconfigured⟩ := configured_updateConfig schemas config (hid ▸ hm)
  rw [hid] at hon
  refine ⟨m, state, q, hm, hon, ?_, hconfigured⟩
  rw [after_append]
  exact (on_updateConfig_perform hon).symm

/-- A trigger is cleared, set wrongly, set rightly and cleared again, while another node comes and goes. -/
theorem history_ticking :
    let tick : Node := ⟨"tick", .trigger, "cron-trigger", [], .draft, none⟩
    let p : Pipeline := ⟨"p", "Ticking", 0, [tick], []⟩
    let edits := [
      Edit.updateConfig Builtin.schemas "tick" [("schedule", .string " ")],
      .addNode ⟨"note", .logic, "log", [], .draft, none⟩,
      .updateConfig Builtin.schemas "tick" [("schedule", .string "often")],
      .updateConfig Builtin.schemas "note" [("message", .string "tick")],
      .updateConfig Builtin.schemas "tick" [("schedule", .string "*/5 * * * *")],
      .removeNode "note",
      .updateConfig Builtin.schemas "tick" []]
    p.node? tick.id = some tick ∧ OnlyConfigure Builtin.schemas tick.id edits ∧
      History Builtin.schemas p tick edits ∧
      [1, 3, 5, 7].map (fun k => (p.after (edits.take k)).nodes.map Node.state) =
        [[.draft], [.configured, .draft], [.ready, .ready], [.error]] := by
  intro tick p edits
  have hn : p.node? tick.id = some tick := rfl
  have hedits : OnlyConfigure Builtin.schemas tick.id edits := by
    simp [OnlyConfigure, edits, Edit.touches, tick]
  exact ⟨hn, hedits, history_after hn hedits, by decide +kernel⟩

end Pipeline

end Flowline
