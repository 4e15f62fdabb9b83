import Flowline.Proofs.Emitter.Readings
import Flowline.Proofs.Script.Quoting
import Flowline.Proofs.Text

/-!
# Blank fields

A field counts as missing when it is `null` or a text of blanks.  Most emitters treat it then as if it were not
there, but some write blank texts as they are: `emit_cleared_iff` says which texts have to go for the fragment
to be that of a node without its missing fields.
-/

namespace Flowline

/-! ## Cleared nodes -/

namespace Node

/-- A node without the fields that count as missing.  Of two entries with one key the first counts. -/
def cleared (n : Node) : Node :=
  { n with config := n.config.filter fun e => ! isMissing (n.config.get? e.1) }

/-- A field has a text, but one of blanks only. -/
def Blank (n : Node) (field : String) : Prop :=
  ∃ s, n.config.get? field = some (.string s) ∧ Text.trim s = ""

variable {n : Node} {field : String}

theorem get?_cleared (n : Node) (field : String) : n.cleared.config.get? field =
    if isMissing (n.config.get? field) then none else n.config.get? field := by
  rw [cleared, Table.get?_filter n.config (fun key => ! isMissing (n.config.get? key))]
  cases isMissing (n.config.get? field) <;> rfl

theorem Blank.field? (h : n.Blank field) : ∃ s, n.field? field = some (.string s) ∧ Text.trim s = "" := by
  obtain ⟨s, hs, hblank⟩ := h
  exact ⟨s, by rw [Node.field?, hs]; rfl, hblank⟩

theorem Blank.cleared (h : n.Blank field) : n.cleared.field? field = none := by
  obtain ⟨s, hs, hblank⟩ := h
  have hmissing : isMissing (n.config.get? field) = true := by
    rw [hs]
    exact Text.trim_eq_empty_iff.mp hblank
  rw [Node.field?, get?_cleared, if_pos hmissing]
  rfl

/-- Only blank texts are lost: `null` is not read anyway. -/
theorem field?_cleared (h : ¬ n.Blank field) : n.cleared.field? field = n.field? field := by
  rw [field?, field?, get?_cleared]
  cases hv : n.config.get? field with
  | none => rfl
  | some v =>
    cases v with
    | null => rfl
    | string s =>
      have hmissing : isMissing (some (.string s)) = false := by
        rw [← Bool.not_eq_true]
        exact fun hall => h ⟨s, hv, Text.trim_eq_empty_iff.mpr hall⟩
      rw [hmissing, if_neg Bool.false_ne_true]
    | bool b => rfl
    | number x => rfl
    | array vs => rfl
    | object ms => rfl

/-- A blank text is no text. -/
theorem text?_cleared (n : Node) (field : String) : n.cleared.text? field = n.text? field := by
  by_cases h : n.Blank field
  · obtain ⟨s, hs, hblank⟩ := h.field?
    rw [text?, text?, h.cleared, hs]
    change none = (some (Text.trim s)).filter (· ≠ "")
    rw [hblank]
    rfl
  · rw [text?, text?, field?_cleared h]

theorem textOr_cleared (n : Node) (field default : String) :
    n.cleared.textOr field default = n.textOr field default := by
  rw [textOr, textOr, text?_cleared]

theorem textItems_cleared (n : Node) (field : String) :
    Builtin.textItems n.cleared field = Builtin.textItems n field := by
  by_cases h : n.Blank field
  · obtain ⟨s, hs, -⟩ := h.field?
    rw [Builtin.textItems, Builtin.textItems, h.cleared, hs]
    rfl
  · rw [Builtin.textItems, Builtin.textItems, field?_cleared h]

end Node

namespace Builtin

open Script

variable {n : Node} {i : EmitInputs} {kind field port : String} {emit : Emitter}

/-- A reading for which a blank text is as good as none. -/
def Reading.isPlain : Reading → Bool
  | text _ => true
  | value _ => false
  | scalar _ => false
  | items _ => true

theorem agree_cleared {r : Reading} (h : r.isPlain = true) : r.Agree n.cleared n := by
  cases r with
  | text field => exact n.text?_cleared field
  | items field => exact n.textItems_cleared field
  | value field => cases h
  | scalar field => cases h

/-! ## Texts that are written blank or not -/

/-- The operators that compare with a value. -/
def comparing : List String := operators.erase "exists"

/-- The fields whose text the emitter of a kind writes also if it is blank. -/
def verbatim (n : Node) (i : EmitInputs) : Table (List String) := [
  ("condition", if n.textOr "operator" "exists" ∈ comparing then ["value"] else []),
  ("evm-read", "abi" :: if i.ports.has "args" then [] else ["args"]),
  ("evm-write", ["gasLimit"]),
  ("http-fetch", "headers" :: "timeoutMs" :: if i.ports.has "body" then [] else ["body"])]

/-- A text that begins with a literal begins with a quote. -/
theorem ne_quote_append {t : String} (h : t.toList.head? ≠ some '"') (s rest : String) :
    t ≠ quote s ++ rest := by
  rintro rfl
  rw [String.toList_append, toList_quote] at h
  exact h rfl

theorem ne_quote {t : String} (h : t.toList.head? ≠ some '"') (s : String) : t ≠ quote s := by
  rw [← String.append_empty (s := quote s)]
  exact ne_quote_append h s ""

theorem comparison_inj {op lhs a b : String} (hop : op ∈ comparing)
    (h : comparison op lhs a = comparison op lhs b) : a = b := by
  have hcases : op ∈ ["equals", "notEquals", "gt", "gte", "lt", "lte", "contains"] := hop
  simp only [List.mem_cons, List.not_mem_nil, or_false] at hcases
  rcases hcases with rfl | rfl | rfl | rfl | rfl | rfl | rfl
  all_goals simpa [comparison, String.append_assoc, String.append_right_inj, String.append_left_inj] using h

theorem comparison_of_notMem {op : String} (hop : op ∉ comparing) (lhs rhs : String) :
    comparison op lhs rhs = lhs ++ " != null" := by
  have hcases : op ∉ ["equals", "notEquals", "gt", "gte", "lt", "lte", "contains"] := hop
  simp only [List.mem_cons, List.not_mem_nil, or_false, not_or] at hcases
  simp [comparison, hcases]

/-- The operand of a comparison is `undefined` without a value, and quoted with a blank one. -/
theorem emitCondition_cleared_iff (largest : Nat) :
    emitCondition largest n.cleared i = emitCondition largest n i ↔
    (n.textOr "operator" "exists" ∈ comparing → ¬ n.Blank "value") := by
  constructor
  · intro h hop hblank
    obtain ⟨s, hs, -⟩ := hblank.field?
    have hvalue := congrArg Fragment.value h
    simp only [emitCondition, Node.textOr_cleared, hs, hblank.cleared, Option.map_none, Option.map_some,
      Option.getD_none, Option.getD_some, Option.some.injEq, String.append_right_inj,
      String.append_left_inj] at hvalue
    exact ne_quote (by decide) s (comparison_inj hop hvalue)
  · intro h
    by_cases hop : n.textOr "operator" "exists" ∈ comparing
    · simp only [emitCondition, Node.textOr_cleared, Node.field?_cleared (h hop)]
    · simp only [emitCondition, Node.textOr_cleared, comparison_of_notMem hop]

theorem emitEvmWrite_cleared_iff :
    emitEvmWrite n.cleared i = emitEvmWrite n i ↔ ¬ n.Blank "gasLimit" := by
  constructor
  · intro h hblank
    obtain ⟨s, hs, htrim⟩ := hblank.field?
    have hvalue := congrArg Fragment.value h
    -- one has the gas "0", the other an empty text
    simp only [emitEvmWrite, hs, hblank.cleared, scalar?, htrim, Option.getD_none, Option.getD_some,
      listed, Option.some.injEq, String.append_right_inj, String.append_left_inj,
      String.intercalate_cons_cons] at hvalue
    exact absurd hvalue (by decide)
  · intro h
    simp only [emitEvmWrite, Node.field?_cleared h]

theorem portOrField?_cleared (h : i.ports.has port = false → ¬ n.Blank field) :
    portOrField? n.cleared i port field = portOrField? n i port field := by
  unfold portOrField?
  cases hport : i.ports.get? port with
  | some expr => rfl
  | none =>
    have hfree : i.ports.has port = false := by rw [Table.has_eq_isSome, hport]; rfl
    simp only [Node.field?_cleared (h hfree)]

theorem emitEvmRead_cleared_iff : emitEvmRead n.cleared i = emitEvmRead n i ↔
    ¬ n.Blank "abi" ∧ (i.ports.has "args" = false → ¬ n.Blank "args") := by
  constructor
  · intro h
    have hvalue := congrArg Fragment.value h
    simp only [emitEvmRead, Node.textOr_cleared, listed, Option.some.injEq, String.append_right_inj,
      String.intercalate_cons_cons, String.append_assoc] at hvalue
    have habi : ¬ n.Blank "abi" := by
      intro hblank
      obtain ⟨s, hs, -⟩ := hblank.field?
      simp only [hs, hblank.cleared] at hvalue
      exact ne_quote_append (by simp [String.toList_append]) s _ hvalue
    -- the ABIs are the same text then, so the arguments have to be
    refine ⟨habi, fun hfree hblank => ?_⟩
    obtain ⟨s, hs, -⟩ := hblank.field?
    have hport : i.ports.get? "args" = none := by simpa [Table.has_eq_isSome] using hfree
    simp only [Node.field?_cleared habi, portOrField?, hport, hs, hblank.cleared, Option.map_none,
      Option.map_some, Option.getD_none, Option.getD_some, String.append_right_inj,
      String.append_left_inj, String.intercalate_singleton] at hvalue
    exact ne_quote (by decide) s hvalue
  · rintro ⟨habi, hargs⟩
    simp only [emitEvmRead, Node.textOr_cleared, Node.field?_cleared habi, portOrField?_cleared hargs]

/-! ## Requests -/

/-- The length that parts of a list add to it. -/
def room (parts : List String) : Nat := (parts.map fun part => part.length + 2).sum

theorem room_append (xs ys : List String) : room (xs ++ ys) = room xs + room ys := by
  simp [room]

theorem length_intercalate (first : String) (parts : List String) :
    (", ".intercalate (first :: parts)).length = first.length + room parts := by
  induction parts generalizing first with
  | nil => simp [room]
  | cons part parts ih =>
    have hcomma : ", ".length = 2 := rfl
    rw [String.intercalate_cons_cons, String.length_append, String.length_append, ih, hcomma]
    simp only [room, List.map_cons, List.sum_cons]
    omega

/-- What a value adds to the headers of a request. -/
theorem room_headers?_lt (given : String) (secret : Option String) :
    room (headers? none secret).toList < room (headers? (some given) secret).toList := by
  cases secret with
  | none => simp [headers?, room]
  | some secret =>
    have hdots : "...".length = 3 := rfl
    simp [headers?, room, braced, listed, String.intercalate_cons_cons, String.length_append]
    omega

/-- Headers without a missing field take no more room, and less than with a blank text. -/
theorem room_requestHeaders_cleared (n : Node) (i : EmitInputs) :
    room (requestHeaders n.cleared i) ≤ room (requestHeaders n i) ∧
      (room (requestHeaders n.cleared i) = room (requestHeaders n i) → ¬ n.Blank "headers") := by
  by_cases h : n.Blank "headers"
  · obtain ⟨s, hs, -⟩ := h.field?
    have hlt := room_headers?_lt (literal (.string s)) (i.bindings.get? "auth")
    rw [requestHeaders, requestHeaders, h.cleared, hs]
    exact ⟨hlt.le, fun heq => absurd heq hlt.ne⟩
  · rw [requestHeaders, requestHeaders, Node.field?_cleared h]
    exact ⟨le_rfl, fun _ => h⟩

theorem room_requestTimeout_cleared (n : Node) :
    room (requestTimeout n.cleared) ≤ room (requestTimeout n) ∧
      (room (requestTimeout n.cleared) = room (requestTimeout n) → ¬ n.Blank "timeoutMs") := by
  by_cases h : n.Blank "timeoutMs"
  · obtain ⟨s, hs, -⟩ := h.field?
    rw [requestTimeout, requestTimeout, h.cleared, hs]
    simp [scalar?, room]
  · rw [requestTimeout, requestTimeout, Node.field?_cleared h]
    exact ⟨le_rfl, fun _ => h⟩

theorem room_requestBody_cleared (n : Node) (i : EmitInputs) :
    room (requestBody n.cleared i) ≤ room (requestBody n i) ∧
      (room (requestBody n.cleared i) = room (requestBody n i) →
        i.ports.has "body" = false → ¬ n.Blank "body") := by
  by_cases h : i.ports.has "body" = false → ¬ n.Blank "body"
  · rw [requestBody, requestBody, portOrField?_cleared h]
    exact ⟨le_rfl, fun _ => h⟩
  · obtain ⟨hfree, hblank⟩ := Classical.not_imp.mp h
    obtain ⟨s, hs, -⟩ := (Classical.not_not.mp hblank).field?
    have hport : i.ports.get? "body" = none := by simpa [Table.has_eq_isSome] using hfree
    simp [requestBody, portOrField?, hport, (Classical.not_not.mp hblank).cleared, hs, room]

theorem emitHttpFetch_cleared_iff : emitHttpFetch n.cleared i = emitHttpFetch n i ↔
    ¬ n.Blank "headers" ∧ ¬ n.Blank "timeoutMs" ∧ (i.ports.has "body" = false → ¬ n.Blank "body") := by
  constructor
  · intro h
    have hvalue := congrArg Fragment.value h
    simp only [value_emitHttpFetch, requestParts, Node.textOr_cleared, braced, listed, List.cons_append,
      Option.some.injEq, String.append_right_inj, String.append_left_inj,
      String.intercalate_cons_cons] at hvalue
    have hroom := congrArg String.length hvalue
    rw [length_intercalate, length_intercalate, room_append, room_append, room_append, room_append]
      at hroom
    -- what one part lost no other has gained
    obtain ⟨hheaders, headers⟩ := room_requestHeaders_cleared n i
    obtain ⟨htimeout, timeout⟩ := room_requestTimeout_cleared n
    obtain ⟨hbody, body⟩ := room_requestBody_cleared n i
    exact ⟨headers (by omega), timeout (by omega), body (by omega)⟩
  · rintro ⟨hheaders, htimeout, hbody⟩
    simp only [emitHttpFetch, Node.textOr_cleared, Node.field?_cleared hheaders,
      Node.field?_cleared htimeout, portOrField?_cleared hbody]

/-! ## All kinds -/

/-- The kinds whose emitters write blank texts. -/
def verbatimKinds : List String := ["condition", "evm-read", "evm-write", "http-fetch"]

theorem get?_verbatim (h : kind ∉ verbatimKinds) : (verbatim n i).get? kind = none := by
  simp only [verbatimKinds, List.mem_cons, List.not_mem_nil, or_false, not_or] at h
  simp [verbatim, Table.get?_cons, h]

/-- All others only look at texts and at the texts in lists. -/
theorem plain_readings : ∀ kind ∈ emitters.keys, kind ∉ verbatimKinds →
    ∃ rs, readings.get? kind = some rs ∧ rs.all Reading.isPlain = true := by
  simp only [← Option.any_eq_true]
  decide +kernel

/-- The fragment of a node is that of the node without its missing fields exactly if no text is blank that the
emitter writes even then. -/
theorem emit_cleared_iff (hemit : emitters.get? kind = some emit) (n : Node) (i : EmitInputs) :
    emit n.cleared i = emit n i ↔
      ∀ field ∈ ((verbatim n i).get? kind).getD [], ¬ n.Blank field := by
  by_cases hkind : kind ∈ verbatimKinds
  · simp only [verbatimKinds, List.mem_cons, List.not_mem_nil, or_false] at hkind
    rcases hkind with rfl | rfl | rfl | rfl
    all_goals
      obtain rfl := Option.some.inj hemit
      rw [Except.ok.injEq]
      simp only [verbatim, Table.get?_cons, String.reduceEq, if_true, if_false, Option.getD_some]
    · rw [emitCondition_cleared_iff]
      split <;> simp [*]
    · rw [emitEvmRead_cleared_iff]
      cases i.ports.has "args" <;> simp
    · rw [emitEvmWrite_cleared_iff]
      simp
    · rw [emitHttpFetch_cleared_iff]
      cases i.ports.has "body" <;> simp
  · have hkey : kind ∈ emitters.keys := List.mem_map.mpr ⟨(kind, emit), Table.mem_of_get? hemit, rfl⟩
    obtain ⟨rs, hrs, hplain⟩ := plain_readings kind hkey hkind
    rw [get?_verbatim hkind]
    refine iff_of_true (emit_congr hemit hrs (fun r hr => ?_) i) (List.forall_mem_nil _)
    exact agree_cleared (List.all_eq_true.mp hplain r hr)

/-- A valid request whose body comes from a port. -/
def relayed (timeout : Json) : Node where
  id := "relay"
  category := .capability
  kind := "http-fetch"
  config := [
    ("authSecret", .string "\u3000"), ("body", .string " "), ("headers", .null),
    ("method", .string "POST"), ("timeoutMs", timeout), ("url", .string "https://example.com/in")]
  state := .ready
  label := none

def relayedInputs : EmitInputs := ⟨"step_relay", [("body", "step_hook")], []⟩

theorem emit_cleared_relayed :
    emitters.get? "http-fetch" = some (fun n i => .ok (emitHttpFetch n i)) ∧
      emitHttpFetch (relayed .null).cleared relayedInputs =
        emitHttpFetch (relayed .null) relayedInputs := by
  have hemit : emitters.get? "http-fetch" = some (fun n i => .ok (emitHttpFetch n i)) := rfl
  refine ⟨hemit, Except.ok.inj ((emit_cleared_iff hemit _ relayedInputs).mpr ?_)⟩
  have hfields : ((verbatim (relayed .null) relayedInputs).get? "http-fetch").getD [] =
      ["headers", "timeoutMs"] := rfl
  rw [hfields]
  rintro field hfield ⟨s, hs, -⟩
  simp only [List.mem_cons, List.not_mem_nil, or_false] at hfield
  rcases hfield with rfl | rfl
  all_goals exact Json.noConfusion (Option.some.inj hs)

/-- A timeout that is cleared to a blank text leaves its name behind. -/
theorem blank_timeout :
    (httpFetch.issues (relayed (.string ""))).any FieldIssue.isBlocking = false ∧
      isMissing (some (.string "")) = true ∧
      (emitHttpFetch (relayed (.string "")) relayedInputs).value = some ("__httpJson(runtime, " ++
        "\x7b url: \"https://example.com/in\", method: \"POST\", body: step_hook, timeoutMs:  \x7d)") ∧
      (emitHttpFetch (relayed (.string "")).cleared relayedInputs).value =
        some ("__httpJson(runtime, " ++
          "\x7b url: \"https://example.com/in\", method: \"POST\", body: step_hook \x7d)") := by
  decide +kernel

end Builtin

end Flowline
