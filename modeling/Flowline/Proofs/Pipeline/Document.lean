import Flowline.Pipeline.Document
import Flowline.Proofs.Json.Kept
import Flowline.Proofs.Json.Records

/-!
# Pipelines read back

A pipeline whose configurations have whole numbers only is read back from its document exactly if the
document nests no deeper than documents may.  So two such pipelines with one document are the same, and
a document that has been rewritten once is not changed by being rewritten again.
-/

namespace Flowline

open Json Json.Reader

/-! ## What a document can say -/

/-- A pipeline as it is kept: its version is a 64-bit word, and its configurations are kept. -/
structure Pipeline.IsKept (p : Pipeline) : Prop where
  version : p.version ≤ Text.maxWord
  configs : ∀ n ∈ p.nodes, (Json.object n.config).Kept

/-- All numbers in the configurations of a pipeline are whole. -/
def Pipeline.HasWholeNumbers (p : Pipeline) : Prop :=
  ∀ n ∈ p.nodes, (Json.object n.config).isWhole = true

theorem memberDepth_append (ms ms' : Members) :
    memberDepth (ms ++ ms') = max (memberDepth ms) (memberDepth ms') := by
  induction ms with
  | nil => simp [memberDepth]
  | cons m ms ih => simp [memberDepth, ih, Nat.max_assoc]

theorem memberDepth_optional (key : String) (text : Option String) :
    memberDepth (Members.optional key text) = 0 := by
  cases text <;> rfl

theorem Edge.depth_toJson (e : Edge) : e.toJson.depth = 1 := by
  rw [toJson, Json.depth, memberDepth_append, memberDepth_optional]
  rfl

theorem Node.depth_toJson (n : Node) : n.toJson.depth = (Json.object n.config).depth + 1 := by
  rw [toJson, Json.depth, memberDepth_append, memberDepth_optional]
  simp [memberDepth, Json.depth]

theorem Pipeline.depth_toJson_le_iff {p : Pipeline} {room : Nat} :
    p.toJson.depth ≤ room + 4 ↔ ∀ n ∈ p.nodes, (Json.object n.config).depth ≤ room + 1 := by
  have hnodes : listDepth (p.nodes.map Node.toJson) ≤ room + 2 ↔
      ∀ n ∈ p.nodes, (Json.object n.config).depth ≤ room + 1 := by
    simp [listDepth_le_iff, Node.depth_toJson]
  have hedges : listDepth (p.edges.map Edge.toJson) ≤ room + 2 := by
    simp [listDepth_le_iff, Edge.depth_toJson]
  rw [← hnodes]
  simp only [toJson, Json.depth, memberDepth, Json.nat]
  omega

/-! ## Reading back -/

theorem Edge.reads (e : Edge) (room : Nat) :
    Reads (Json.Reader.record Edge.record (room + 1)) e.toJson.chars e := by
  obtain ⟨id, source, sourcePort, target, targetPort⟩ := e
  rw [Edge.toJson, chars_object]
  refine reads_record _
    (s := ⟨id.map some, some source, some sourcePort, some target, some targetPort⟩) ?_ fun fault => ?_
  · have hports : Takes (fieldNamed room Edge.record.fields) { id := id.map some }
        [("source", quoteChars source), ("sourcePort", quoteChars sourcePort),
          ("target", quoteChars target), ("targetPort", quoteChars targetPort)]
        ⟨id.map some, some source, some sourcePort, some target, some targetPort⟩ :=
      .field rfl rfl (reads_of (reads_string source)) <|
      .field rfl rfl (reads_of (reads_string sourcePort)) <|
      .field rfl rfl (reads_of (reads_string target)) <|
      .field rfl rfl (reads_of (reads_string targetPort)) (.nil _)
    cases id with
    | none => exact hports
    | some id => exact .field rfl rfl (reads_of (reads_string? id)) hports
  · cases id <;> rfl

theorem Node.reads {n : Node} {room : Nat} (hkept : (Json.object n.config).Kept)
    (hwhole : (Json.object n.config).isWhole = true) (hdepth : (Json.object n.config).depth ≤ room + 1) :
    Reads (Json.Reader.record Node.record (room + 2)) n.toJson.chars n := by
  obtain ⟨id, category, kind, config, state, label⟩ := n
  rw [Node.toJson, chars_object]
  refine reads_record _
    (s := ⟨some id, some category, some kind, some config, some state, label.map some⟩) ?_ fun fault => ?_
  · have hcategory : Reads (readCategory (room + 1)) (quoteChars category.name) category := by
      cases category <;> exact reads_variant rfl
    have hconfig : Reads (readConfig (room + 1)) (Json.object config).chars config := by
      cases hkept with
      | object hkeys h =>
        have hw := haveWhole_iff.mp hwhole
        have hd := memberDepth_le_iff.mp (Nat.le_of_succ_le_succ hdepth)
        exact reads_table hkeys fun m hm => reads_value (h m hm) (hw m hm) (hd m hm)
    have hstate : Reads (readState (room + 1)) (quoteChars state.name) state := by
      cases state <;> exact reads_variant rfl
    have hlabel : Takes (fieldNamed (room + 1) Node.record.fields)
        ⟨some id, some category, some kind, some config, some state, none⟩
        ((Members.optional "label" label).map fun m => (m.1, m.2.chars))
        ⟨some id, some category, some kind, some config, some state, label.map some⟩ := by
      cases label with
      | none => exact .nil _
      | some label => exact .field rfl rfl (reads_of (reads_string? label)) (.nil _)
    rw [List.map_append]
    exact .field rfl rfl (reads_of (reads_string id)) <|
      .field rfl rfl (reads_of hcategory) <|
      .field rfl rfl (reads_of (reads_string kind)) <|
      .field rfl rfl (reads_of hconfig) <|
      .field rfl rfl (reads_of hstate) hlabel
  · cases label <;> rfl

theorem Pipeline.reads {p : Pipeline} {room : Nat} (hkept : p.IsKept) (hwhole : p.HasWholeNumbers)
    (hdepth : p.toJson.depth ≤ room + 4) :
    Reads (Json.Reader.record Pipeline.record (room + 4)) p.toJson.chars p := by
  obtain ⟨id, name, version, nodes, edges⟩ := p
  have hd := Pipeline.depth_toJson_le_iff.mp hdepth
  have hnodes : Reads (list (room + 3) (Json.Reader.record Node.record))
      (Json.array (nodes.map Node.toJson)).chars nodes := by
    rw [chars_array, List.map_map]
    exact reads_list (fun n hn => Node.reads (hkept.configs n hn) (hwhole n hn) (hd n hn))
      fun n _ => opens_object _
  have hedges : Reads (list (room + 3) (Json.Reader.record Edge.record))
      (Json.array (edges.map Edge.toJson)).chars edges := by
    rw [chars_array, List.map_map]
    exact reads_list (fun e _ => Edge.reads e _) fun e _ => opens_object _
  rw [Pipeline.toJson, chars_object]
  refine reads_record _ (s := ⟨some id, some name, some version, some nodes, some edges⟩) ?_ fun _ => rfl
  exact .field rfl rfl (reads_of (reads_string id)) <|
    .field rfl rfl (reads_of (reads_string name)) <|
    .field rfl rfl (reads_of (reads_natural "u64" hkept.version)) <|
    .field rfl rfl (reads_of hnodes) <|
    .field rfl rfl (reads_of hedges) (.nil _)

/-! ## What has been read -/

/-- The configuration fits, if it has been read. -/
def Node.Draft.IsKept (room : Nat) (s : Node.Draft) : Prop :=
  ∀ ms, s.config = some ms → Fits room (.object ms)

/-- The version and the nodes are kept, if they have been read. -/
def Pipeline.Draft.IsKept (room : Nat) (s : Pipeline.Draft) : Prop :=
  (∀ v, s.version = some v → v ≤ Text.maxWord) ∧
    ∀ nodes, s.nodes = some nodes → ∀ n ∈ nodes, Fits room (.object n.config)

theorem Node.record_gives (room : Nat) :
    Gives (Json.Reader.record Node.record (room + 2)) fun n => Fits (room + 1) (.object n.config) := by
  refine Json.Reader.record_gives (P := Draft.IsKept) (fun _ _ h => nomatch h)
    (fun below _ f hf s hs => ?_) fun below hbelow fault s n hs hn => ?_
  · have hconfig : Gives ((Field.of "config" Draft.config
        (fun v s => { s with config := some v }) readConfig).read below s) (Draft.IsKept below) :=
      of_gives table_gives (fun _ _ h _ _ hms => Option.some.inj hms ▸ h) s hs
    -- No other field has to do with the configuration.
    simp only [Node.record, List.mem_cons, List.not_mem_nil, or_false] at hf
    rcases hf with rfl | rfl | rfl | rfl | rfl | rfl
    · exact of_gives_of_keeps (fun _ _ h => by exact h) s hs
    · exact of_gives_of_keeps (fun _ _ h => by exact h) s hs
    · exact of_gives_of_keeps (fun _ _ h => by exact h) s hs
    · exact hconfig
    · exact of_gives_of_keeps (fun _ _ h => by exact h) s hs
    · exact of_gives_of_keeps (fun _ _ h => by exact h) s hs
  · obtain rfl := Nat.succ.inj hbelow
    obtain ⟨id, -, hn⟩ := bind_eq_ok_iff.mp hn
    obtain ⟨category, -, hn⟩ := bind_eq_ok_iff.mp hn
    obtain ⟨kind, -, hn⟩ := bind_eq_ok_iff.mp hn
    cases hn
    cases hconfig : s.config with
    | none => exact fits_object (KeptMembers.nil _)
    | some ms => exact hs ms hconfig

/-- A pipeline that a document describes is kept, and its own document nests no deeper than there was
room for. -/
theorem Pipeline.record_gives (room : Nat) :
    Gives (Json.Reader.record Pipeline.record (room + 4)) fun p =>
      p.IsKept ∧ p.toJson.depth ≤ room + 4 := by
  refine Json.Reader.record_gives (P := fun _ => Draft.IsKept (room + 1)) (fun _ => ⟨nofun, nofun⟩)
    (fun below hbelow f hf s hs => ?_) fun below hbelow fault s p hs hp => ?_
  · have hversion : Gives ((Field.of "version" Draft.version
        (fun v s => { s with version := some v }) fun _ => natural "u64").read below s)
        (Draft.IsKept (room + 1)) :=
      of_gives (natural_gives "u64") (fun _ _ hv h => ⟨fun _ hw => Option.some.inj hw ▸ hv, h.2⟩) s hs
    have hnodes : Gives ((Field.of "nodes" Draft.nodes (fun v s => { s with nodes := some v })
        fun room => list room (Json.Reader.record Node.record)).read below s)
        (Draft.IsKept (room + 1)) := by
      refine of_gives (Q := fun nodes => ∀ n ∈ nodes, Fits (room + 1) (.object n.config))
        (list_gives fun below' hbelow' => ?_)
        (fun _ _ hns h => ⟨h.1, fun _ hms => Option.some.inj hms ▸ hns⟩) s hs
      obtain rfl : below' = room + 2 := by omega
      exact Node.record_gives room
    simp only [Pipeline.record, List.mem_cons, List.not_mem_nil, or_false] at hf
    rcases hf with rfl | rfl | rfl | rfl | rfl
    · exact of_gives_of_keeps (fun _ _ h => by exact h) s hs
    · exact of_gives_of_keeps (fun _ _ h => by exact h) s hs
    · exact hversion
    · exact hnodes
    · exact of_gives_of_keeps (fun _ _ h => by exact h) s hs
  · obtain ⟨hversion, hnodes⟩ := hs
    obtain ⟨id, -, hp⟩ := bind_eq_ok_iff.mp hp
    cases hp
    have hfits : ∀ n ∈ s.nodes.getD [], Fits (room + 1) (.object n.config) := by
      cases h : s.nodes with
      | none => exact List.forall_mem_nil _
      | some nodes => exact hnodes nodes h
    have hword : s.version.getD 0 ≤ Text.maxWord := by
      cases h : s.version with
      | none => exact Nat.zero_le _
      | some v => exact hversion v h
    exact ⟨⟨hword, fun n hn => (hfits n hn).kept⟩,
      Pipeline.depth_toJson_le_iff.mpr fun n hn => (hfits n hn).depth⟩

/-! ## Round trips -/

namespace Pipeline

theorem parse_serialize {p : Pipeline} (hkept : p.IsKept) (hwhole : p.HasWholeNumbers)
    (hdepth : p.toJson.depth ≤ maxDepth) : parse p.serialize = .ok p := by
  refine document_of_reads ?_
  rw [serialize, Json.render, String.toList_ofList]
  exact reads hkept hwhole hdepth

theorem kept_of_parse {document : String} {p : Pipeline} (h : parse document = .ok p) :
    p.IsKept ∧ p.toJson.depth ≤ maxDepth :=
  document_gives (record_gives 123) h

/-- The document that a document is rewritten to. -/
def rewrite (document : String) : Except Json.Fault String := (parse document).map serialize

/-- What holds of reading and writing pipelines. -/
structure RoundTrips : Prop where
  /-- A pipeline with whole numbers is read back exactly if its document is not too deep. -/
  read_back : ∀ p : Pipeline, p.IsKept → p.HasWholeNumbers →
    (parse p.serialize = .ok p ↔ p.toJson.depth ≤ maxDepth)
  /-- No two such pipelines have the same document. -/
  injective : ∀ p q : Pipeline, p.IsKept → q.IsKept → p.HasWholeNumbers → q.HasWholeNumbers →
    p.toJson.depth ≤ maxDepth → q.toJson.depth ≤ maxDepth → p.serialize = q.serialize → p = q
  /-- A pipeline that has been read is one that could be written and read again. -/
  accepted : ∀ document p, parse document = .ok p → p.IsKept ∧ p.toJson.depth ≤ maxDepth
  /-- A document that has been rewritten stays as it is. -/
  idempotent : ∀ document p, parse document = .ok p → p.HasWholeNumbers →
    rewrite document = .ok p.serialize ∧ rewrite p.serialize = .ok p.serialize

/-- What is written is read back, and what is read is written in one way. -/
theorem roundTrips : RoundTrips := by
  constructor
  case read_back =>
    intro p hkept hwhole
    exact ⟨fun h => (kept_of_parse h).2, parse_serialize hkept hwhole⟩
  case injective =>
    intro p q hp hq hpw hqw hpd hqd heq
    have hparse : parse p.serialize = .ok q := by rw [heq, parse_serialize hq hqw hqd]
    exact Except.ok.inj ((parse_serialize hp hpw hpd).symm.trans hparse)
  case accepted => exact fun document p h => kept_of_parse h
  case idempotent =>
    intro document p h hwhole
    obtain ⟨hkept, hdepth⟩ := kept_of_parse h
    exact ⟨by rw [rewrite, h]; rfl, by rw [rewrite, parse_serialize hkept hwhole hdepth]; rfl⟩

/-- A pipeline with quotes, control characters and nested values, some labels and some ids of edges. -/
def quoted : Pipeline where
  id := "p\"\\/"
  name := "\x00\x1f\n\r\t\x08\x0c é 😀"
  version := 18446744073709551615
  nodes := [
    ⟨"t", .trigger, "cron-trigger", [("schedule", .string "*/5 * * * *")], .ready, none⟩,
    ⟨"", .chainConfig, "x", [
      ("", .array [.null, .bool true, .number (.int (-9223372036854775808)), .array [], .object []]),
      ("a\n", .object [("k", .array [.object [("z", .number (.int 18446744073709551615))]])])],
      .error, some "\x7f\""⟩]
  edges := [⟨none, "t", "event", "", "in"⟩, ⟨some "e", "t", "event", "", "in"⟩,
    ⟨none, "t", "event", "", "in"⟩]

/-- It is read back. -/
theorem roundTrips_quoted :
    quoted.IsKept ∧ quoted.HasWholeNumbers ∧ quoted.toJson.depth = 7 ∧
      parse quoted.serialize = .ok quoted := by
  have hschedule : (Json.object [("schedule", .string "*/5 * * * *")]).Kept :=
    .object (List.pairwise_singleton _ _) (by simpa using .string _)
  have hlow : (Json.number (.int (-9223372036854775808))).Kept := .int (by decide) (by decide)
  have hhigh : (Json.number (.int 18446744073709551615)).Kept := .int (by decide) (by decide)
  have hinner : (Json.object [("z", .number (.int 18446744073709551615))]).Kept :=
    .object (List.pairwise_singleton _ _) (by simpa using hhigh)
  have hobject :
      (Json.object [("k", .array [.object [("z", .number (.int 18446744073709551615))]])]).Kept :=
    .object (List.pairwise_singleton _ _) (by simpa using .array (by simpa using hinner))
  have harray : (Json.array [.null, .bool true, .number (.int (-9223372036854775808)), .array [],
      .object []]).Kept := by
    refine .array ?_
    simpa using ⟨.null, .bool true, hlow, .array (List.forall_mem_nil _),
      .object .nil (List.forall_mem_nil _)⟩
  have hkept : quoted.IsKept := by
    refine ⟨by decide, ?_⟩
    simp only [quoted, List.forall_mem_cons]
    refine ⟨hschedule, .object ?_ ?_, List.forall_mem_nil _⟩
    · decide +kernel
    · simpa using ⟨harray, hobject⟩
  have hwhole : quoted.HasWholeNumbers := by
    simp [HasWholeNumbers, quoted, isWhole, areWhole, haveWhole]
  have hdepth : quoted.toJson.depth = 7 := by
    simp [Pipeline.toJson, quoted, Node.toJson, Edge.toJson, depth, listDepth, memberDepth,
      Members.optional, Json.nat]
  exact ⟨hkept, hwhole, hdepth, (roundTrips.read_back quoted hkept hwhole).mpr (by rw [hdepth]; decide)⟩

end Pipeline

end Flowline
