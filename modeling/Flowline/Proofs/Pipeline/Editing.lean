import Flowline.Pipeline.Edit
import Flowline.Proofs.Validation.Structural

/-!
# Edited pipelines stay sound

`Edit.Makes` says what an edit that is carried out makes of a pipeline; an edit that is not carried out
leaves the pipeline as it was.  So what every edit that is carried out keeps holds after any number of
edits: ids are distinct, edges join declared nodes, no port has two edges, and the version counts the edits
that were carried out.
-/

namespace Flowline

open Validation

/-! ## Edits in place -/

namespace Editing

variable {α β : Type} {p q : Pipeline}

theorem on_bind (edit : Editing α) (next : α → Editing β) (p : Pipeline) :
    (edit >>= next).on p = match edit.on p with
      | (.ok a, q) => (next a).on q
      | (.error why, q) => (.error why, q) := by
  simp only [on, ExceptT.run_bind, StateT.run_bind]
  rcases (ExceptT.run edit).run p with ⟨answer, q⟩
  cases answer with
  | ok a => rfl
  | error why => rfl

theorem on_get (p : Pipeline) : (get : Editing Pipeline).on p = (.ok p, p) := rfl

theorem on_node (id : String) (p : Pipeline) :
    (node id).on p = match p.node? id with
      | some n => (.ok n, p)
      | none => (.error (.unknownNode id), p) := by
  rw [node, on_bind, on_get]
  dsimp only
  cases p.node? id with
  | some n => rfl
  | none => rfl

theorem on_addNode (n : Node) (p : Pipeline) :
    (addNode n).on p = match p.node? n.id with
      | some _ => (.error (.duplicateNode n.id), p)
      | none => (.ok (), { p with nodes := p.nodes ++ [n], version := p.version + 1 }) := by
  rw [addNode, on_bind, on_get]
  dsimp only
  cases p.node? n.id with
  | some m => rfl
  | none => rfl

theorem on_removeNode (id : String) (p : Pipeline) :
    (removeNode id).on p = match p.node? id with
      | some n => (.ok n,
          { p with
            nodes := p.nodes.eraseP (·.id = id)
            edges := p.edges.filter (! ·.touches id)
            version := p.version + 1 })
      | none => (.error (.unknownNode id), p) := by
  rw [removeNode, on_bind, on_node]
  cases p.node? id with
  | some n => rfl
  | none => rfl

theorem on_addEdge (e : Edge) (p : Pipeline) :
    (addEdge e).on p = match p.node? e.source, p.node? e.target with
      | some _, some _ =>
        if p.edges.any fun f => f.target = e.target && f.targetPort = e.targetPort then
          (.error (.portOccupied e.target e.targetPort), p)
        else (.ok (), { p with edges := p.edges ++ [e], version := p.version + 1 })
      | some _, none => (.error (.unknownNode e.target), p)
      | none, _ => (.error (.unknownNode e.source), p) := by
  rw [addEdge, on_bind, on_node]
  cases p.node? e.source with
  | none => rfl
  | some m =>
    dsimp only
    rw [on_bind, on_node]
    cases p.node? e.target with
    | none => rfl
    | some n =>
      dsimp only
      rw [on_bind, on_get]
      dsimp only
      split
      · rfl
      · rfl

theorem on_removeEdge (source sourcePort target targetPort : String) (p : Pipeline) :
    (removeEdge source sourcePort target targetPort).on p =
      match p.edges.find? (·.joins source sourcePort target targetPort) with
      | some e => (.ok e,
          { p with
            edges := p.edges.eraseP (·.joins source sourcePort target targetPort)
            version := p.version + 1 })
      | none => (.error (.unknownEdge source sourcePort target targetPort), p) := by
  rw [removeEdge, on_bind, on_get]
  dsimp only
  cases p.edges.find? (·.joins source sourcePort target targetPort) with
  | some e => rfl
  | none => rfl

theorem on_updateConfig (schemas : Schemas) (id : String) (config : Members) (p : Pipeline) :
    (updateConfig schemas id config).on p = match p.node? id with
      | some n => (.ok (schemas.readiness { n with config }),
          { p with
            nodes := modifyFirst (·.id = id)
              (fun m => { m with config, state := schemas.readiness { n with config } }) p.nodes
            version := p.version + 1 })
      | none => (.error (.unknownNode id), p) := by
  rw [updateConfig, on_bind, on_node]
  cases p.node? id with
  | some n => rfl
  | none => rfl

end Editing

/-! ## Edits -/

/-- An edit with what it is given. -/
inductive Edit
  | addNode (n : Node)
  | removeNode (id : String)
  | addEdge (e : Edge)
  | removeEdge (source sourcePort target targetPort : String)
  | updateConfig (schemas : Schemas) (id : String) (config : Members)

namespace Edit

/-- An edit in place, whatever it answers. -/
def perform : Edit → Editing Unit
  | addNode n => Editing.addNode n
  | removeNode id => do let _ ← Editing.removeNode id
  | addEdge e => Editing.addEdge e
  | removeEdge source sourcePort target targetPort => do
    let _ ← Editing.removeEdge source sourcePort target targetPort
  | updateConfig schemas id config => do let _ ← Editing.updateConfig schemas id config

/-- Whether an edit of a pipeline is carried out. -/
def succeeds (e : Edit) (p : Pipeline) : Bool := (e.perform.on p).1.toBool

/-- What an edit that is carried out makes of a pipeline. -/
inductive Makes (p : Pipeline) : Edit → Pipeline → Prop
  | addNode (n : Node) (h : n.id ∉ p.nodes.map Node.id) :
      Makes p (.addNode n) { p with nodes := p.nodes ++ [n], version := p.version + 1 }
  | removeNode (id : String) :
      Makes p (.removeNode id)
        { p with
          nodes := p.nodes.eraseP (·.id = id)
          edges := p.edges.filter (! ·.touches id)
          version := p.version + 1 }
  | addEdge (e : Edge) (hsource : e.source ∈ p.nodes.map Node.id)
      (htarget : e.target ∈ p.nodes.map Node.id)
      (hfree : (e.target, e.targetPort) ∉ p.edges.map fun f => (f.target, f.targetPort)) :
      Makes p (.addEdge e) { p with edges := p.edges ++ [e], version := p.version + 1 }
  | removeEdge (source sourcePort target targetPort : String) :
      Makes p (.removeEdge source sourcePort target targetPort)
        { p with
          edges := p.edges.eraseP (·.joins source sourcePort target targetPort)
          version := p.version + 1 }
  | updateConfig (schemas : Schemas) (id : String) (config : Members) (state : NodeState) :
      Makes p (.updateConfig schemas id config)
        { p with
          nodes := modifyFirst (·.id = id) (fun n => { n with config, state }) p.nodes
          version := p.version + 1 }

end Edit

namespace Pipeline

variable {p q : Pipeline} {id : String} {n : Node}

theorem node?_eq_none_iff : p.node? id = none ↔ id ∉ p.nodes.map Node.id := by
  simp [node?]

theorem mem_of_node? (h : p.node? id = some n) : id ∈ p.nodes.map Node.id := by
  obtain ⟨hn, rfl⟩ := node?_eq_some h
  exact List.mem_map_of_mem hn

/-- A socket is free exactly if no edge is found there. -/
theorem any_socket_eq_false_iff {node port : String} :
    (p.edges.any fun f => f.target = node && f.targetPort = port) = false ↔
      (node, port) ∉ p.edges.map fun f => (f.target, f.targetPort) := by
  simp

end Pipeline

/-- An edit is refused and has changed nothing, or it is carried out. -/
theorem Edit.refused_or_makes (e : Edit) (p : Pipeline) :
    (∃ why, e.perform.on p = (.error why, p)) ∨
      ∃ q, e.perform.on p = (.ok (), q) ∧ Edit.Makes p e q := by
  cases e with
  | addNode n =>
    rw [perform, Editing.on_addNode]
    cases hn : p.node? n.id with
    | some m => exact Or.inl ⟨_, rfl⟩
    | none => exact Or.inr ⟨_, rfl, .addNode n (Pipeline.node?_eq_none_iff.mp hn)⟩
  | removeNode id =>
    rw [perform, Editing.on_bind, Editing.on_removeNode]
    cases hn : p.node? id with
    | some n => exact Or.inr ⟨_, rfl, .removeNode id⟩
    | none => exact Or.inl ⟨_, rfl⟩
  | addEdge e =>
    rw [perform, Editing.on_addEdge]
    cases hm : p.node? e.source with
    | none => exact Or.inl ⟨_, rfl⟩
    | some m =>
      cases hn : p.node? e.target with
      | none => exact Or.inl ⟨_, rfl⟩
      | some n =>
        dsimp only
        split
        · exact Or.inl ⟨_, rfl⟩
        · rename_i hany
          refine Or.inr ⟨_, rfl, .addEdge e (Pipeline.mem_of_node? hm) (Pipeline.mem_of_node? hn) ?_⟩
          exact Pipeline.any_socket_eq_false_iff.mp (Bool.not_eq_true _ ▸ hany)
  | removeEdge source sourcePort target targetPort =>
    rw [perform, Editing.on_bind, Editing.on_removeEdge]
    cases p.edges.find? (·.joins source sourcePort target targetPort) with
    | some e => exact Or.inr ⟨_, rfl, .removeEdge source sourcePort target targetPort⟩
    | none => exact Or.inl ⟨_, rfl⟩
  | updateConfig schemas id config =>
    rw [perform, Editing.on_bind, Editing.on_updateConfig]
    cases p.node? id with
    | some n => exact Or.inr ⟨_, rfl, .updateConfig schemas id config _⟩
    | none => exact Or.inl ⟨_, rfl⟩

/-! ## Soundness -/

namespace Pipeline

variable {p q : Pipeline} {e : Edit}

/-- No id is declared twice, both ends of every edge are declared, and no two edges lead to one port of a
node. -/
structure Sound (p : Pipeline) : Prop where
  ids_nodup : (p.nodes.map Node.id).Nodup
  declared : ∀ e ∈ p.edges, e.source ∈ p.nodes.map Node.id ∧ e.target ∈ p.nodes.map Node.id
  sockets_nodup : (p.edges.map fun e => (e.target, e.targetPort)).Nodup

theorem sound_new (id name : String) : (new id name).Sound :=
  ⟨List.nodup_nil, fun _ he => absurd he List.not_mem_nil, List.nodup_nil⟩

theorem map_id_modifyFirst (id : String) (config : Members) (state : NodeState) (nodes : List Node) :
    (modifyFirst (·.id = id) (fun n : Node => { n with config, state }) nodes).map Node.id =
      nodes.map Node.id := by
  induction nodes with
  | nil => rfl
  | cons x xs ih =>
    simp only [modifyFirst]
    split
    · rfl
    · rw [List.map_cons, ih, List.map_cons]

theorem nodup_map_concat {α β : Type} {f : α → β} {xs : List α} {x : α} (h : (xs.map f).Nodup)
    (hx : f x ∉ xs.map f) : ((xs ++ [x]).map f).Nodup := by
  rw [List.map_append, List.nodup_append]
  refine ⟨h, List.nodup_singleton _, fun a ha b hb hab => hx ?_⟩
  obtain rfl : b = f x := List.mem_singleton.mp hb
  exact hab ▸ ha

/-- Only the id of the node that is removed may be gone. -/
theorem mem_ids_eraseP {nodes : List Node} {id x : String} (hx : x ∈ nodes.map Node.id)
    (hne : x ≠ id) : x ∈ (nodes.eraseP (·.id = id)).map Node.id := by
  obtain ⟨n, hn, rfl⟩ := List.mem_map.mp hx
  exact List.mem_map_of_mem ((List.mem_eraseP_of_neg (by simpa using hne)).mpr hn)

/-- Every edit that is carried out keeps a pipeline sound. -/
theorem Sound.makes (hp : p.Sound) (h : Edit.Makes p e q) : q.Sound := by
  cases h with
  | addNode n hn =>
    refine ⟨?_, fun e he => ?_, hp.sockets_nodup⟩
    · exact nodup_map_concat hp.ids_nodup hn
    · obtain ⟨hsource, htarget⟩ := hp.declared e he
      rw [List.map_append]
      exact ⟨List.mem_append_left _ hsource, List.mem_append_left _ htarget⟩
  | removeNode id =>
    refine ⟨?_, fun e he => ?_, ?_⟩
    · exact hp.ids_nodup.sublist (List.eraseP_sublist.map _)
    · -- an edge that is kept does not touch the node
      obtain ⟨he, htouches⟩ := List.mem_filter.mp he
      obtain ⟨hsource, htarget⟩ := hp.declared e he
      have hne : e.source ≠ id ∧ e.target ≠ id := by simpa [Edge.touches] using htouches
      exact ⟨mem_ids_eraseP hsource hne.1, mem_ids_eraseP htarget hne.2⟩
    · exact hp.sockets_nodup.sublist (List.filter_sublist.map _)
  | addEdge e hsource htarget hfree =>
    refine ⟨hp.ids_nodup, fun f hf => ?_, ?_⟩
    · rcases List.mem_append.mp hf with hf | hf
      · exact hp.declared f hf
      · obtain rfl := List.mem_singleton.mp hf
        exact ⟨hsource, htarget⟩
    · exact nodup_map_concat hp.sockets_nodup hfree
  | removeEdge source sourcePort target targetPort =>
    refine ⟨hp.ids_nodup, fun f hf => hp.declared f (List.mem_of_mem_eraseP hf), ?_⟩
    exact hp.sockets_nodup.sublist (List.eraseP_sublist.map _)
  | updateConfig schemas id config state =>
    refine ⟨?_, fun f hf => ?_, hp.sockets_nodup⟩
    · rw [map_id_modifyFirst]
      exact hp.ids_nodup
    · rw [map_id_modifyFirst]
      exact hp.declared f hf

theorem version_of_makes (h : Edit.Makes p e q) : q.version = p.version + 1 := by
  cases h <;> rfl

/-! ## Undoing -/

theorem makes_of_on (h : e.perform.on p = (.ok (), q)) : Edit.Makes p e q := by
  rcases e.refused_or_makes p with ⟨why, hwhy⟩ | ⟨q', hq', hmakes⟩
  · rw [hwhy] at h
    cases h
  · rw [hq'] at h
    cases h
    exact hmakes

/-- If only the last member of a list satisfies a condition, it is found and erased. -/
theorem find?_eraseP_concat {α : Type} {P : α → Bool} {xs : List α} {x : α}
    (hxs : ∀ y ∈ xs, ¬ P y = true) (hx : P x = true) :
    (xs ++ [x]).find? P = some x ∧ (xs ++ [x]).eraseP P = xs := by
  constructor
  · rw [List.find?_append, List.find?_eq_none.mpr hxs, Option.none_or, List.find?_cons_of_pos hx]
  · rw [List.eraseP_append_right _ hxs, List.eraseP_cons_of_pos hx, List.append_nil]

/-- An edge that was added is the one that is removed again. -/
theorem removeEdge_addEdge {e : Edge} (h : (Editing.addEdge e).on p = (.ok (), q)) :
    (Editing.removeEdge e.source e.sourcePort e.target e.targetPort).on q =
      (.ok e, { p with version := p.version + 2 }) := by
  have hmakes : Edit.Makes p (.addEdge e) q := makes_of_on h
  cases hmakes with
  | addEdge e hsource htarget hfree =>
    -- no other edge leads to its port
    have hother : ∀ f ∈ p.edges, ¬ f.joins e.source e.sourcePort e.target e.targetPort = true := by
      intro f hf hjoins
      simp only [Edge.joins, Bool.and_eq_true, decide_eq_true_eq] at hjoins
      obtain ⟨⟨-, htarget⟩, hport⟩ := hjoins
      exact hfree (List.mem_map.mpr ⟨f, hf, by rw [htarget, hport]⟩)
    have hself : e.joins e.source e.sourcePort e.target e.targetPort = true := by simp [Edge.joins]
    obtain ⟨hfind, herase⟩ := find?_eraseP_concat
      (P := fun f : Edge => f.joins e.source e.sourcePort e.target e.targetPort) hother hself
    rw [Editing.on_removeEdge]
    dsimp only
    rw [hfind, herase]

/-- A node that was added is the one that is removed again, and no edge with it. -/
theorem Sound.removeNode_addNode (hp : p.Sound) {n : Node}
    (h : (Editing.addNode n).on p = (.ok (), q)) :
    (Editing.removeNode n.id).on q = (.ok n, { p with version := p.version + 2 }) := by
  have hmakes : Edit.Makes p (.addNode n) q := makes_of_on h
  cases hmakes with
  | addNode n hn =>
    have hother : ∀ m ∈ p.nodes, ¬ decide (m.id = n.id) = true := fun m hm hid =>
      hn (List.mem_map.mpr ⟨m, hm, of_decide_eq_true hid⟩)
    have huntouched : ∀ e ∈ p.edges, (! e.touches n.id) = true := by
      intro e he
      obtain ⟨hsource, htarget⟩ := hp.declared e he
      have hne : e.source ≠ n.id ∧ e.target ≠ n.id :=
        ⟨fun heq => hn (heq ▸ hsource), fun heq => hn (heq ▸ htarget)⟩
      simpa [Edge.touches] using hne
    obtain ⟨hfind, herase⟩ := find?_eraseP_concat (P := fun m : Node => m.id = n.id) hother
      (decide_eq_true rfl)
    rw [Editing.on_removeNode]
    dsimp only [node?]
    rw [hfind, herase, List.filter_eq_self.mpr huntouched]

/-! ## Histories -/

/-- The pipeline after some edits, of which any may have been refused. -/
def after (p : Pipeline) (edits : List Edit) : Pipeline :=
  edits.foldl (fun p e => (e.perform.on p).2) p

/-- How many of some edits are carried out. -/
def successes (p : Pipeline) : List Edit → ℕ
  | [] => 0
  | e :: edits => (if e.succeeds p then 1 else 0) + successes (e.perform.on p).2 edits

theorem after_append (p : Pipeline) (edits more : List Edit) :
    p.after (edits ++ more) = (p.after edits).after more := List.foldl_append

/-- A refused edit leaves a pipeline as it is. -/
theorem on_eq_self_of_error {why : EditError} (h : (e.perform.on p).1 = .error why) :
    (e.perform.on p).2 = p := by
  rcases e.refused_or_makes p with ⟨why', hwhy⟩ | ⟨q, hq, -⟩
  · rw [hwhy]
  · rw [hq] at h
    cases h

theorem version_on (e : Edit) (p : Pipeline) :
    (e.perform.on p).2.version = p.version + if e.succeeds p then 1 else 0 := by
  rw [Edit.succeeds]
  rcases e.refused_or_makes p with ⟨why, hwhy⟩ | ⟨q, hq, hmakes⟩
  · rw [hwhy]
    rfl
  · rw [hq]
    exact version_of_makes hmakes

theorem Sound.on (hp : p.Sound) (e : Edit) : (e.perform.on p).2.Sound := by
  rcases e.refused_or_makes p with ⟨why, hwhy⟩ | ⟨q, hq, hmakes⟩
  · rw [hwhy]
    exact hp
  · rw [hq]
    exact hp.makes hmakes

theorem Sound.after (hp : p.Sound) (edits : List Edit) : (p.after edits).Sound := by
  induction edits generalizing p with
  | nil => exact hp
  | cons e edits ih => exact ih (hp.on e)

theorem version_after (p : Pipeline) (edits : List Edit) :
    (p.after edits).version = p.version + p.successes edits := by
  induction edits generalizing p with
  | nil => rfl
  | cons e edits ih =>
    rw [after, List.foldl_cons, ← after, ih, version_on, successes, Nat.add_assoc]

/-- Edits of which none is carried out leave a pipeline as it is. -/
theorem after_eq_self_of_version {edits : List Edit} (h : (p.after edits).version = p.version) :
    p.after edits = p := by
  induction edits generalizing p with
  | nil => rfl
  | cons e edits ih =>
    have hversion := version_after p (e :: edits)
    rw [h, successes] at hversion
    cases hsucceeds : e.succeeds p with
    | true =>
      rw [hsucceeds, if_pos rfl] at hversion
      omega
    | false =>
      have hself : (e.perform.on p).2 = p := by
        rcases e.refused_or_makes p with ⟨why, hwhy⟩ | ⟨q, hq, -⟩
        · rw [hwhy]
        · rw [Edit.succeeds, hq] at hsucceeds
          cases hsucceeds
      rw [after, List.foldl_cons, ← after, hself] at h ⊢
      exact ih h

/-! ## What editors may rely on -/

/-- What holds of a sound pipeline after some edits. -/
structure Edited (p : Pipeline) (edits : List Edit) : Prop where
  sound : (p.after edits).Sound
  /-- Validation reports no repeated id, no undeclared end of an edge and no port with two edges. -/
  silent : ∀ schemas, ∀ d ∈ (p.after edits).validate schemas, d.code.isStructural = false
  /-- An edit that is refused next changes nothing. -/
  refused : ∀ (e : Edit) why, (e.perform.on (p.after edits)).1 = .error why →
    (e.perform.on (p.after edits)).2 = p.after edits
  /-- The version counts the edits that were carried out. -/
  version : (p.after edits).version = p.version + p.successes edits
  /-- As long as the version is the same, so is the pipeline. -/
  unchanged : ∀ more, (p.after (edits ++ more)).version = (p.after edits).version →
    p.after (edits ++ more) = p.after edits
  /-- To add an edge and remove it again changes nothing but the version. -/
  edge_undone : ∀ (e : Edge) q, (Editing.addEdge e).on (p.after edits) = (.ok (), q) →
    (Editing.removeEdge e.source e.sourcePort e.target e.targetPort).on q =
      (.ok e, { p.after edits with version := (p.after edits).version + 2 })
  /-- To add a node and remove it again changes nothing but the version. -/
  node_undone : ∀ (n : Node) q, (Editing.addNode n).on (p.after edits) = (.ok (), q) →
    (Editing.removeNode n.id).on q =
      (.ok n, { p.after edits with version := (p.after edits).version + 2 })

/-- A new pipeline is sound, and whatever edits a sound pipeline goes through, it is sound after each, and
only those that are carried out leave a trace. -/
theorem edited_of_sound :
    (∀ id name, (new id name).Sound) ∧ ∀ p : Pipeline, p.Sound → ∀ edits, p.Edited edits := by
  refine ⟨sound_new, fun p hp edits => ?_⟩
  have hafter : (p.after edits).Sound := hp.after edits
  constructor
  case sound => exact hafter
  case silent =>
    intro schemas d hd
    exact isStructural_validate hafter.ids_nodup hafter.declared hafter.sockets_nodup hd
  case refused => exact fun e why h => on_eq_self_of_error h
  case version => exact version_after p edits
  case unchanged =>
    intro more h
    rw [after_append] at h ⊢
    exact after_eq_self_of_version h
  case edge_undone => exact fun e q h => removeEdge_addEdge h
  case node_undone => exact fun n q h => hafter.removeNode_addNode h

/-- Two nodes are joined, a second edge to the same port is refused, and one node is removed again. -/
theorem edited_joined :
    let edits := [
      Edit.addNode ⟨"tick", .trigger, "cron-trigger", [], .draft, none⟩,
      .addNode ⟨"note", .logic, "log", [], .draft, none⟩,
      .addEdge ⟨none, "tick", "event", "note", "in"⟩,
      .addEdge ⟨none, "note", "out", "note", "in"⟩,
      .removeNode "tick"]
    (new "p" "Joined").Edited edits ∧ ((new "p" "Joined").after edits).version = 4 ∧
      ((new "p" "Joined").after edits).nodes.map Node.id = ["note"] ∧
      ((new "p" "Joined").after edits).edges = [] :=
  ⟨edited_of_sound.2 _ (edited_of_sound.1 "p" "Joined") _, by decide, by decide, by decide⟩

end Pipeline

end Flowline
