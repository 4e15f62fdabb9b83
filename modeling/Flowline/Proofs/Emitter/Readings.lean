import Flowline.Catalog

/-!
# What the built-in emitters read

An emitter looks at the configuration of a node through readings of single fields, and what it makes of the
node depends on nothing else: `emit_congr`.
-/

namespace Flowline.Builtin

/-- A look at one field of a node. -/
inductive Reading
  /-- Its text, trimmed, unless that is empty. -/
  | text (field : String)
  /-- Its value, unless that is `null`. -/
  | value (field : String)
  /-- The text of its number, or its text, trimmed. -/
  | scalar (field : String)
  /-- The texts in its list. -/
  | items (field : String)

/-- Two nodes look the same. -/
def Reading.Agree (m n : Node) : Reading → Prop
  | text field => m.text? field = n.text? field
  | value field => m.field? field = n.field? field
  | scalar field => scalar? (m.field? field) = scalar? (n.field? field)
  | items field => textItems m field = textItems n field

/-! ## Values behind readings -/

section Values

variable (n : Node) (field : String)

theorem text?_eq_bind : n.text? field = ((n.config.get? field).bind trimmed?).filter (· ≠ "") := by
  unfold Node.text? Node.field?
  cases n.config.get? field with
  | none => rfl
  | some v => cases v <;> rfl

theorem scalar?_field? : scalar? (n.field? field) = (n.config.get? field).bind fun v => scalar? (some v) := by
  unfold Node.field?
  cases n.config.get? field with
  | none => rfl
  | some v => cases v <;> rfl

theorem textItems_eq_bind : textItems n field =
    (((n.config.get? field).bind Json.array?).getD []).filterMap Json.string? := by
  unfold textItems Node.field?
  cases n.config.get? field with
  | none => rfl
  | some v => cases v <;> rfl

end Values

/-- Nodes with the same value in a field look the same there. -/
theorem Reading.agree_of_get? {m n : Node} (h : ∀ field, m.config.get? field = n.config.get? field) :
    ∀ r : Reading, r.Agree m n := by
  intro r
  cases r with
  | text field => rw [Agree, text?_eq_bind, text?_eq_bind, h]
  | value field => rw [Agree, Node.field?, Node.field?, h]
  | scalar field => rw [Agree, scalar?_field?, scalar?_field?, h]
  | items field => rw [Agree, textItems_eq_bind, textItems_eq_bind, h]

/-! ## Readings of emitters -/

/-- What the emitter of each kind reads. -/
def readings : Table (List Reading) := [
  ("chain-selector", []),
  ("condition", [.text "field", .text "operator", .value "value"]),
  ("cron-trigger", [.text "schedule", .text "timezone"]),
  ("data-transform", [.text "expression"]),
  ("erc20-token", [.text "address"]),
  ("evm-log-trigger", [.items "contractAddresses", .text "eventSignature", .text "confidence"]),
  ("evm-read", [.text "functionName", .value "abi", .value "args"]),
  ("evm-write", [.scalar "gasLimit"]),
  ("get-secret", []),
  ("http-fetch",
    [.text "url", .text "method", .value "headers", .value "body", .scalar "timeoutMs"]),
  ("http-trigger", [.text "method", .text "path", .items "authorizedKeys"]),
  ("json-parse", [.text "path"]),
  ("log", [.text "message", .text "level"]),
  ("price-feed-consumer", [.text "feedAddress"])]

variable {largest : Nat} {kind : String} {emit : Emitter} {rs : List Reading} {m n : Node}

/-- Nodes that look the same to an emitter have the same fragment. -/
theorem emit_congr (hemit : (emittersFor largest).get? kind = some emit) (hrs : readings.get? kind = some rs)
    (h : ∀ r ∈ rs, r.Agree m n) (i : EmitInputs) : emit m i = emit n i := by
  have hentry := Table.mem_of_get? hemit
  simp only [emittersFor, List.map_cons, List.map_nil, List.mem_cons, Prod.mk.injEq, List.not_mem_nil,
    or_false] at hentry
  rcases hentry with ⟨rfl, rfl⟩ | ⟨rfl, rfl⟩ | ⟨rfl, rfl⟩ | ⟨rfl, rfl⟩ | ⟨rfl, rfl⟩ | ⟨rfl, rfl⟩ |
    ⟨rfl, rfl⟩ | ⟨rfl, rfl⟩ | ⟨rfl, rfl⟩ | ⟨rfl, rfl⟩ | ⟨rfl, rfl⟩ | ⟨rfl, rfl⟩ | ⟨rfl, rfl⟩ | ⟨rfl, rfl⟩
  all_goals
    obtain rfl := Option.some.inj hrs
    simp only [List.forall_mem_cons, Reading.Agree] at h
    simp only [emitChainSelector, emitCondition, emitCronTrigger, emitDataTransform, emitErc20Token,
      emitEvmLogTrigger, emitEvmRead, emitEvmWrite, emitGetSecret, emitHttpFetch, emitHttpTrigger,
      emitJsonParse, emitLog, emitPriceFeedConsumer, portOrField?, Node.textOr, h]

/-! ## The parts of a request -/

def requestHeaders (n : Node) (i : EmitInputs) : List String :=
  (headers? ((n.field? "headers").map Script.literal) (i.bindings.get? "auth")).toList

def requestBody (n : Node) (i : EmitInputs) : List String :=
  ((portOrField? n i "body" "body").map ("body: " ++ ·)).toList

def requestTimeout (n : Node) : List String :=
  ((scalar? (n.field? "timeoutMs")).map ("timeoutMs: " ++ ·)).toList

/-- All that a request has but its timeout. -/
def requestParts (n : Node) (i : EmitInputs) : List String :=
  ("url: " ++ i.portOr "url" (Script.quote (n.textOr "url" ""))) ::
    ("method: " ++ Script.quote (n.textOr "method" "GET")) :: (requestHeaders n i ++ requestBody n i)

/-- The timeout of a request comes last. -/
theorem value_emitHttpFetch (n : Node) (i : EmitInputs) : (emitHttpFetch n i).value =
    some ("__httpJson(runtime, " ++ braced (requestParts n i ++ requestTimeout n) ++ ")") :=
  rfl

end Flowline.Builtin
