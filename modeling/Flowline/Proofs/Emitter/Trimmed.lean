import Flowline.Binding
import Flowline.Proofs.Emitter.Readings
import Flowline.Proofs.Script.Quoting
import Flowline.Proofs.Text

/-!
# Blanks around texts

The check of a field judges most texts without the blanks around them.  If such texts are trimmed, all checks,
all bindings and the fragments of all kinds stay as they are: `readsTrimmed`.  The exception are the addresses
of a list, which are checked trimmed and written as they stand.
-/

namespace Flowline

/-! ## Trimmed values -/

namespace Json

/-- A text without the blanks around it; anything else as it is. -/
def trimmed : Json → Json
  | .string s => .string (Text.trim s)
  | v => v

/-- A list whose texts are trimmed; anything else as it is. -/
def itemsTrimmed : Json → Json
  | .array items => .array (items.map trimmed)
  | v => v

@[simp] theorem trimmed?_trimmed (v : Json) : trimmed? v.trimmed = trimmed? v := by
  cases v with
  | string s => simp [trimmed, trimmed?, string?]
  | _ => rfl

@[simp] theorem trimmed?_itemsTrimmed (v : Json) : trimmed? v.itemsTrimmed = trimmed? v := by
  cases v <;> rfl

theorem array?_trimmed (v : Json) : v.trimmed.array? = v.array? := by
  cases v <;> rfl

theorem array?_itemsTrimmed (v : Json) : v.itemsTrimmed.array? = v.array?.map (·.map trimmed) := by
  cases v <;> rfl

theorem scalar?_trimmed (v : Json) : Builtin.scalar? (some v.trimmed) = Builtin.scalar? (some v) := by
  cases v with
  | string s => simp [trimmed, Builtin.scalar?]
  | _ => rfl

theorem map_trimmed_eq_self {items : List Json} (h : ∀ a, .string a ∈ items → Text.trim a = a) :
    items.map trimmed = items := by
  have hitem : ∀ v ∈ items, v.trimmed = id v := by
    intro v hv
    cases v with
    | string a => exact congrArg string (h a hv)
    | _ => rfl
  rw [List.map_congr_left hitem, List.map_id]

theorem string?_trimmed (v : Json) : v.trimmed.string? = v.string?.map Text.trim := by
  cases v <;> rfl

end Json

namespace FieldType

/-- Whether the check of a type trims a text before it judges it. -/
def trims : FieldType → Bool
  | string | number | integer | address | url | cron | oneOf _ | secretName | chainName => true
  | boolean | addressList | json | stringList | any => false

/-- A value whose text is trimmed, if the check of its type does that. -/
def trimText (type : FieldType) (v : Json) : Json := if type.trims then v.trimmed else v

/-- A value in which all that the check of its type trims is trimmed: the text, or the addresses. -/
def trimAll (type : FieldType) (v : Json) : Json :=
  if type = addressList then v.itemsTrimmed else type.trimText v

variable (type : FieldType) (v : Json)

@[simp] theorem trimmed?_trimText : trimmed? (type.trimText v) = trimmed? v := by
  unfold trimText
  split
  · exact Json.trimmed?_trimmed v
  · rfl

@[simp] theorem trimmed?_trimAll : trimmed? (type.trimAll v) = trimmed? v := by
  unfold trimAll
  split
  · exact Json.trimmed?_itemsTrimmed v
  · exact trimmed?_trimText type v

theorem scalar?_trimText :
    Builtin.scalar? (some (type.trimText v)) = Builtin.scalar? (some v) := by
  unfold trimText
  split
  · exact Json.scalar?_trimmed v
  · rfl

theorem array?_trimText : (type.trimText v).array? = v.array? := by
  unfold trimText
  split
  · exact Json.array?_trimmed v
  · rfl

theorem checkText_trimmed (judge : String → Except Mismatch Unit) :
    checkText v.trimmed judge = checkText v judge := by
  unfold checkText
  rw [Json.trimmed?_trimmed]

theorem checkAddress_trimmed : checkAddress v.trimmed = checkAddress v := by
  unfold checkAddress
  rw [Json.trimmed?_trimmed]

theorem forM_checkAddress_trimmed (items : List Json) :
    (items.map Json.trimmed).forM checkAddress = items.forM checkAddress := by
  induction items with
  | nil => rfl
  | cons v items ih =>
    change (checkAddress v.trimmed >>= fun _ => (items.map Json.trimmed).forM checkAddress) = _
    rw [checkAddress_trimmed, ih]
    rfl

/-- No check sees the difference. -/
theorem check_trimAll : type.check (type.trimAll v) = type.check v := by
  cases type with
  | string => exact checkText_trimmed v _
  | number => cases v <;> simp [trimAll, trimText, trims, Json.trimmed, check]
  | integer => cases v <;> simp [trimAll, trimText, trims, Json.trimmed, check]
  | boolean => rfl
  | address => exact checkAddress_trimmed v
  | addressList =>
    cases v with
    | array items => exact forM_checkAddress_trimmed items
    | _ => rfl
  | url => exact checkText_trimmed v _
  | cron => exact checkText_trimmed v _
  | oneOf allowed => exact checkText_trimmed v _
  | secretName => exact checkText_trimmed v _
  | chainName => exact checkText_trimmed v _
  | json => rfl
  | stringList => rfl
  | any => rfl

end FieldType

/-! ## Trimmed nodes -/

namespace KindSchema

/-- The type of a declared field. -/
def type? (s : KindSchema) (field : String) : Option FieldType :=
  (s.fields.find? (·.name = field)).map FieldSpec.type

/-- A value changed by the type of its field, if that is declared. -/
def mapValue (s : KindSchema) (f : FieldType → Json → Json) (field : String) (v : Json) : Json :=
  match s.type? field with
  | some type => f type v
  | none => v

/-- A node whose values are changed by the types of their fields. -/
def mapValues (s : KindSchema) (f : FieldType → Json → Json) (n : Node) : Node :=
  { n with config := n.config.map fun e => (e.1, s.mapValue f e.1 e.2) }

/-- A node whose texts are trimmed where the checks of their fields do so. -/
def trimTexts (s : KindSchema) (n : Node) : Node := s.mapValues FieldType.trimText n

/-- A node in which all that the checks of its fields trim is trimmed. -/
def trimAll (s : KindSchema) (n : Node) : Node := s.mapValues FieldType.trimAll n

/-- No address in a list has blanks around it. -/
def AddressesBare (s : KindSchema) (n : Node) : Prop :=
  ∀ spec ∈ s.fields, spec.type = .addressList → ∀ items, n.config.get? spec.name = some (.array items) →
    ∀ a, .string a ∈ items → Text.trim a = a

variable {s : KindSchema} {f : FieldType → Json → Json} (n : Node) {field : String}

theorem get?_mapValues (s : KindSchema) (f : FieldType → Json → Json) (field : String) :
    (s.mapValues f n).config.get? field = (n.config.get? field).map (s.mapValue f field) :=
  Table.get?_map n.config (s.mapValue f) field

theorem text?_mapValues (h : ∀ type v, trimmed? (f type v) = trimmed? v) :
    (s.mapValues f n).text? field = n.text? field := by
  have hvalue : ∀ v, trimmed? (s.mapValue f field v) = trimmed? v := by
    intro v
    unfold mapValue
    split
    · exact h _ v
    · rfl
  rw [Builtin.text?_eq_bind, Builtin.text?_eq_bind, get?_mapValues, Option.bind_map]
  simp only [Function.comp_def, hvalue]

theorem text?_trimAll : (s.trimAll n).text? field = n.text? field :=
  text?_mapValues n FieldType.trimmed?_trimAll

theorem scalar?_mapValues
    (h : ∀ type v, Builtin.scalar? (some (f type v)) = Builtin.scalar? (some v)) :
    Builtin.scalar? ((s.mapValues f n).field? field) = Builtin.scalar? (n.field? field) := by
  have hvalue : ∀ v, Builtin.scalar? (some (s.mapValue f field v)) = Builtin.scalar? (some v) := by
    intro v
    unfold mapValue
    split
    · exact h _ v
    · rfl
  rw [Builtin.scalar?_field?, Builtin.scalar?_field?, get?_mapValues, Option.bind_map]
  simp only [Function.comp_def, hvalue]

theorem field?_mapValues (h : ∀ type, s.type? field = some type → ∀ v, f type v = v) :
    (s.mapValues f n).field? field = n.field? field := by
  have hvalue : s.mapValue f field = id := by
    funext v
    unfold mapValue
    split
    · rename_i type htype
      exact h type htype v
    · rfl
  rw [Node.field?, Node.field?, get?_mapValues, hvalue, Option.map_id_fun, id]

theorem textItems_trimTexts : Builtin.textItems (s.trimTexts n) field = Builtin.textItems n field := by
  have hvalue : ∀ v, (s.mapValue FieldType.trimText field v).array? = v.array? := by
    intro v
    unfold mapValue
    split
    · exact FieldType.array?_trimText _ v
    · rfl
  rw [Builtin.textItems_eq_bind, Builtin.textItems_eq_bind, trimTexts, get?_mapValues, Option.bind_map]
  simp only [Function.comp_def, hvalue]

/-- The addresses of a list are trimmed one by one. -/
theorem textItems_trimAll (h : s.type? field = some .addressList) :
    Builtin.textItems (s.trimAll n) field = (Builtin.textItems n field).map Text.trim := by
  have hvalue : ∀ v, s.mapValue FieldType.trimAll field v = v.itemsTrimmed := by
    intro v
    rw [mapValue, h]
    rfl
  rw [Builtin.textItems_eq_bind, Builtin.textItems_eq_bind, trimAll, get?_mapValues]
  cases n.config.get? field with
  | none => rfl
  | some v =>
    simp only [Option.map_some, Option.bind_some, hvalue, Json.array?_itemsTrimmed]
    cases v.array? with
    | none => rfl
    | some items =>
      simp only [Option.map_some, Option.getD_some, List.filterMap_map, List.map_filterMap]
      congr 1
      funext v
      exact v.string?_trimmed

end KindSchema

/-- A binding is resolved from the text of its field. -/
theorem BindingSpec.resolve_congr {m n : Node} (spec : BindingSpec)
    (h : m.text? spec.field = n.text? spec.field) (feed : Option String) (r : Resources) :
    spec.resolve m feed r = spec.resolve n feed r := by
  cases spec with
  | secret name field =>
    change m.text? field = n.text? field at h
    simp only [resolve, h]
  | chain name field port =>
    change m.text? field = n.text? field at h
    cases feed with
    | some expr => rfl
    | none => simp only [resolve, h]
  | contract name field port =>
    change m.text? field = n.text? field at h
    cases feed with
    | some expr => rfl
    | none => simp only [resolve, h]

namespace Builtin

variable {s : KindSchema} {emit : Emitter} {n : Node} {i : EmitInputs}

/-- A reading that does not look at blanks which the check of its field trims. -/
def Reading.trims (s : KindSchema) : Reading → Bool
  | value field => ! (s.type? field).any FieldType.trims
  | _ => true

theorem trims_readings :
    ∀ s ∈ kinds, ∀ rs, readings.get? s.kind = some rs → ∀ r ∈ rs, r.trims s = true := by
  decide +kernel

theorem exists_readings : ∀ s ∈ kinds, ∃ rs, readings.get? s.kind = some rs := by
  simp only [← Option.isSome_iff_exists]
  decide +kernel

theorem agree_trimTexts {r : Reading} (h : r.trims s = true) : r.Agree (s.trimTexts n) n := by
  cases r with
  | text field => exact s.text?_mapValues n FieldType.trimmed?_trimText
  | value field =>
    refine s.field?_mapValues n fun type htype v => ?_
    rw [Reading.trims, htype, Option.any_some, Bool.not_eq_true'] at h
    rw [FieldType.trimText, h, if_neg Bool.false_ne_true]
  | scalar field => exact s.scalar?_mapValues n FieldType.scalar?_trimText
  | items field => exact s.textItems_trimTexts n

theorem emit_trimTexts (hs : s ∈ kinds) (hemit : emitters.get? s.kind = some emit) (n : Node)
    (i : EmitInputs) : emit (s.trimTexts n) i = emit n i := by
  obtain ⟨rs, hrs⟩ := exists_readings s hs
  exact emit_congr hemit hrs (fun r hr => agree_trimTexts (trims_readings s hs rs hrs r hr)) i

/-- Without blanks around them, addresses are trimmed already. -/
theorem get?_trimAll (h : s.AddressesBare n) (field : String) :
    (s.trimAll n).config.get? field = (s.trimTexts n).config.get? field := by
  rw [KindSchema.trimAll, KindSchema.trimTexts, KindSchema.get?_mapValues, KindSchema.get?_mapValues]
  cases hv : n.config.get? field with
  | none => rfl
  | some v =>
    simp only [Option.map_some, Option.some.injEq, KindSchema.mapValue]
    cases htype : s.type? field with
    | none => rfl
    | some type =>
      by_cases hlist : type = .addressList
      · obtain ⟨spec, hspec, rfl⟩ := Option.map_eq_some_iff.mp htype
        obtain rfl : spec.name = field := by simpa using List.find?_some hspec
        have hbare := h spec (List.mem_of_find?_eq_some hspec) hlist
        rw [hlist]
        change v.itemsTrimmed = v
        cases v with
        | array items => exact congrArg Json.array (Json.map_trimmed_eq_self (hbare items hv))
        | _ => rfl
      · exact if_neg hlist

/-- The one list of addresses of the built-in kinds. -/
theorem addressList_watched : ∀ s ∈ kinds, ∀ spec ∈ s.fields, spec.type = .addressList →
    s.kind = "evm-log-trigger" ∧ spec.name = "contractAddresses" ∧
      s.type? spec.name = some .addressList := by
  decide +kernel

/-- The addresses that are watched are told from the fragment. -/
theorem textItems_eq_of_emit {m : Node} (htext : ∀ field, m.text? field = n.text? field)
    (hlength : (textItems m "contractAddresses").length = (textItems n "contractAddresses").length)
    (h : emitEvmLogTrigger m i = emitEvmLogTrigger n i) :
    textItems m "contractAddresses" = textItems n "contractAddresses" := by
  have hcapability := congrArg (fun f => f.trigger.map TriggerHook.capability) h
  simp only [emitEvmLogTrigger, Option.map_some, Option.some.injEq, Node.textOr, htext, braced, listed,
    String.append_assoc, String.append_right_inj, String.intercalate_cons_cons,
    String.append_left_inj] at hcapability
  refine Script.intercalate_map_inj ", " (fun {a b after rest} hab => ?_) hlength hcapability
  simp only [String.append_assoc, String.append_right_inj] at hab
  obtain ⟨hquote, htail⟩ := Script.quote_append_inj hab
  exact ⟨hquote, (String.append_right_inj ")").mp htail⟩

theorem addressesBare_of_emit (hs : s ∈ kinds) (hemit : emitters.get? s.kind = some emit)
    (h : emit (s.trimAll n) i = emit n i) : s.AddressesBare n := by
  intro spec hspec hlist items hitems a ha
  obtain ⟨hkind, hname, htype⟩ := addressList_watched s hs spec hspec hlist
  rw [hkind] at hemit
  obtain rfl : (fun n i => .ok (emitEvmLogTrigger n i)) = emit := Option.some.inj hemit
  rw [hname] at hitems htype
  -- the fragment shows every address, so trimming has changed none
  have htrimmed := s.textItems_trimAll n htype
  have hsame := textItems_eq_of_emit (fun field => s.text?_trimAll n)
    (by rw [htrimmed, List.length_map]) (Except.ok.inj h)
  rw [htrimmed] at hsame
  have hmem : a ∈ textItems n "contractAddresses" := by
    rw [textItems_eq_bind, hitems]
    exact List.mem_filterMap.mpr ⟨.string a, ha, rfl⟩
  exact List.map_inj_left.mp (hsame.trans (List.map_id _).symm) a hmem

end Builtin

/-- What becomes of a node of a kind without the blanks that the checks of its fields trim. -/
structure KindSchema.ReadsTrimmed (s : KindSchema) (emit : Emitter) (n : Node) : Prop where
  /-- The checks do not see the difference. -/
  checks : ∀ spec ∈ s.fields, ∀ v, spec.type.check (spec.type.trimAll v) = spec.type.check v
  /-- Trimmed texts leave the fragment as it is. -/
  texts : ∀ i, emit (s.trimTexts n) i = emit n i
  /-- If the addresses of lists are trimmed too, it is the same exactly if no blanks are around them. -/
  addresses : ∀ i, emit (s.trimAll n) i = emit n i ↔ s.AddressesBare n
  /-- All bindings are resolved as before. -/
  bindings : ∀ spec ∈ s.bindings, ∀ feed r, spec.resolve (s.trimAll n) feed r = spec.resolve n feed r

namespace Builtin

theorem readsTrimmed {s : KindSchema} {emit : Emitter} (hs : s ∈ kinds)
    (hemit : emitters.get? s.kind = some emit) (n : Node) : s.ReadsTrimmed emit n where
  checks spec _ := spec.type.check_trimAll
  texts := emit_trimTexts hs hemit n
  addresses i := by
    constructor
    · exact addressesBare_of_emit hs hemit
    · intro hbare
      obtain ⟨rs, hrs⟩ := exists_readings s hs
      rw [← emit_trimTexts hs hemit n i]
      exact emit_congr hemit hrs (fun r _ => r.agree_of_get? (get?_trimAll hbare)) i
  bindings spec _ := spec.resolve_congr (s.text?_trimAll n)

/-- A valid trigger with blanks around everything. -/
def padded : Node where
  id := "watch"
  category := .trigger
  kind := "evm-log-trigger"
  config := [
    ("chainName", .string " ethereum-mainnet\n"), ("confidence", .string "\u3000LATEST"),
    ("contractAddresses", .array [.string " 0x1111111111111111111111111111111111111111 "]),
    ("eventSignature", .string "Transfer(address,address,uint256)\t")]
  state := .ready
  label := none

theorem readsTrimmed_padded :
    evmLogTrigger ∈ kinds ∧ (evmLogTrigger.issues padded).any FieldIssue.isBlocking = false ∧
      evmLogTrigger.ReadsTrimmed (fun n i => .ok (emitEvmLogTrigger n i)) padded := by
  have hs : evmLogTrigger ∈ kinds := by simp [kinds]
  exact ⟨hs, by decide +kernel, readsTrimmed hs rfl padded⟩

/-- The address that is written is not the one that was checked. -/
theorem padded_address :
    (evmLogTrigger.issues padded).any FieldIssue.isBlocking = false ∧
      ∃ i, emitEvmLogTrigger (evmLogTrigger.trimAll padded) i ≠ emitEvmLogTrigger padded i := by
  refine ⟨by decide +kernel, ⟨"step_watch", [], []⟩, ?_⟩
  decide +kernel

end Builtin

end Flowline
