import Flowline.Proofs.Emitter.Readings
import Flowline.Proofs.Script.Integers
import Flowline.Proofs.Script.Quoting
import Flowline.Proofs.Validation.WellFormed

/-!
# Amounts

A whole number is given as a number or as a text that spells it.  The check of its type, the ceiling on gas and
the emitters read such a value alike, and what is written is its text: `Json.Spells`.  For the gas of a
transaction that is the same number again, since `BigInt` reads it, but the timeout of a request is written as
a numeral, and a text with zeros in front is none.
-/

namespace Flowline

/-! ## Values that spell numbers -/

/-- A value that is a whole number, or a text, blanks aside, that spells one of 64 bits. -/
inductive Json.Spells : Json → Bool → Nat → Nat → Prop
  | number (n : Nat) : Spells (.nat n) false 0 n
  | text {s : String} {plus : Bool} {zeros n : Nat} (h : Text.trim s = Text.spelled plus zeros n)
      (hmax : n ≤ Text.maxWord) : Spells (.string s) plus zeros n

/-- A field whose value spells a number, which is the number that is checked. -/
structure Node.Gives (n : Node) (field : String) (v : Json) (plus : Bool) (zeros amount : Nat) : Prop where
  value : n.config.get? field = some v
  spells : v.Spells plus zeros amount
  checked : FieldType.integer.check v = .ok ()
  natural : Builtin.naturalOf? v = some amount

namespace Builtin

open Script Validation

variable {n : Node} {v : Json} {plus : Bool} {zeros amount : Nat}

/-- The numbers that a ceiling looks at. -/
theorem naturalOf?_eq_some_iff : naturalOf? v = some amount ↔ ∃ plus zeros, v.Spells plus zeros amount := by
  constructor
  · intro h
    cases v with
    | number x =>
      cases x with
      | int k =>
        obtain ⟨hk, rfl⟩ : 0 ≤ k ∧ k.toNat = amount := by simpa [naturalOf?, Number.natural?] using h
        lift k to Nat using hk
        exact ⟨false, 0, .number k⟩
      | float x => cases h
    | string s =>
      obtain ⟨hmax, plus, zeros, hs⟩ := Text.natural?_eq_some_iff.mp h
      exact ⟨plus, zeros, .text hs hmax⟩
    | null => cases h
    | bool b => cases h
    | array vs => cases h
    | object ms => cases h
  · rintro ⟨plus, zeros, hv⟩
    cases hv with
    | number => simp [naturalOf?, Json.nat, Number.natural?]
    | text h hmax => exact Text.natural?_eq_some_iff.mpr ⟨hmax, plus, zeros, h⟩

/-- The check of the type looks at the same numbers. -/
theorem check_integer_iff : FieldType.integer.check v = .ok () ↔ ∃ amount, naturalOf? v = some amount := by
  rw [← Option.isSome_iff_exists]
  cases v with
  | number x => cases h : x.natural? <;> simp [FieldType.check, naturalOf?, h]
  | string s => cases h : Text.natural? (Text.trim s) <;> simp [FieldType.check, naturalOf?, h]
  | null => simp [FieldType.check, naturalOf?]
  | bool b => simp [FieldType.check, naturalOf?]
  | array vs => simp [FieldType.check, naturalOf?]
  | object ms => simp [FieldType.check, naturalOf?]

/-- No character of a number is escaped. -/
theorem quote_spelled (plus : Bool) (zeros n : Nat) :
    quote (Text.spelled plus zeros n) = "\"" ++ Text.spelled plus zeros n ++ "\"" := by
  have hescape : ∀ c ∈ (Text.spelled plus zeros n).toList, escapeChar c = [c] := by
    intro c hc
    rw [Text.toList_spelled] at hc
    rcases List.mem_append.mp hc with hsign | hdigit
    · obtain rfl : c = '+' := by cases plus <;> simp_all
      rfl
    · have hdigit := Text.isDigit_of_mem_zeros hdigit
      -- none of the characters that are escaped is a digit
      unfold escapeChar
      split_ifs with hslash hquote hfeed hreturn htab
      all_goals first | rfl | (subst c; exact absurd hdigit (by decide))
  rw [← String.toList_inj, toList_quote, quoteChars, List.flatMap_congr hescape, List.flatMap_singleton']
  simp

/-- A field of whole numbers that is there and may be there gives a number. -/
theorem exists_gives {spec : FieldSpec} {field : String} (htype : spec.type = .integer)
    (h : spec.Admits (n.config.get? field)) (hgiven : Present (n.config.get? field)) :
    ∃ v plus zeros amount, n.Gives field v plus zeros amount := by
  obtain ⟨v, hv, -⟩ := id hgiven
  have hcheck := h.typed v hv hgiven
  rw [htype] at hcheck
  obtain ⟨amount, hnatural⟩ := check_integer_iff.mp hcheck
  obtain ⟨plus, zeros, hspells⟩ := naturalOf?_eq_some_iff.mp hnatural
  exact ⟨v, plus, zeros, amount, hv, hspells, hcheck, hnatural⟩

/-- What emitters write of it, sign and zeros included. -/
theorem scalar?_of_gives {field : String} (h : n.Gives field v plus zeros amount) :
    scalar? (n.field? field) = some (Text.spelled plus zeros amount) := by
  rw [scalar?_field?, h.value, Option.bind_some]
  cases h.spells with
  | number => exact congrArg some (Text.toString_eq_spelled amount)
  | text hs hmax => exact congrArg some hs

/-! ## Gas -/

/-- The gas that the emitter writes, with what the checks have made of its field. -/
structure GasWritten (n : Node) (i : EmitInputs) (plus : Bool) (zeros gas : Nat) : Prop where
  /-- The number that the type of the field was checked for and that the ceiling was held against. -/
  given : ∃ v, n.Gives "gasLimit" v plus zeros gas ∧ gasWithinCeiling v = none
  written : (emitEvmWrite n i).value = some ("__evmWrite(runtime, " ++ i.binding "chain" ++ ", " ++
    i.binding "contract" ++ ", BigInt(\"" ++ Text.spelled plus zeros gas ++ "\"), " ++
    i.portOr "data" (i.port "in") ++ ")")
  /-- `BigInt` makes the same number of the text. -/
  denoted : Grammar.bigInt? (Text.spelled plus zeros gas) = some (gas : Int)
  ceiling : gas ≤ 5000000

theorem le_maxGas (hgas : naturalOf? v = some amount) (h : gasWithinCeiling v = none) : amount ≤ maxGas := by
  rw [gasWithinCeiling, hgas] at h
  by_contra hlt
  rw [not_le] at hlt
  simp [hlt] at h

theorem gas_written (h : (evmWrite.issues n).any FieldIssue.isBlocking = false) (i : EmitInputs) :
    ∃ plus zeros gas, GasWritten n i plus zeros gas := by
  have hadmits : FieldSpec.Admits ⟨"gasLimit", .integer, true, some gasWithinCeiling⟩
      (n.config.get? "gasLimit") := any_isBlocking_issues_iff.mp h _ (by simp [evmWrite])
  have hpresent := hadmits.present rfl
  obtain ⟨v, plus, zeros, gas, hgives⟩ := exists_gives rfl hadmits hpresent
  have hceiling : gasWithinCeiling v = none := hadmits.constrained v hgives.value hpresent _ rfl
  refine ⟨plus, zeros, gas, ⟨v, hgives, hceiling⟩, ?_, Grammar.bigInt?_spelled,
    le_maxGas hgives.natural hceiling⟩
  simp only [emitEvmWrite, scalar?_of_gives hgives, Option.getD_some, quote_spelled, listed,
    String.append_assoc, String.intercalate_cons_cons, String.intercalate_singleton]
  rfl

/-- A valid transaction whose gas is given as a value. -/
def spending (gas : Json) : Node where
  id := "settle"
  category := .capability
  kind := "evm-write"
  config := [("gasLimit", gas)]
  state := .ready
  label := none

theorem gas_written_padded :
    (evmWrite.issues (spending (.string " +004800000\n"))).any FieldIssue.isBlocking = false ∧
      ∃ plus zeros gas, GasWritten (spending (.string " +004800000\n"))
        ⟨"step_settle", [("data", "step_price")], [("chain", "chain_0"), ("contract", "\"0x1\"")]⟩
        plus zeros gas := by
  have hvalid : (evmWrite.issues (spending (.string " +004800000\n"))).any FieldIssue.isBlocking = false := by
    decide +kernel
  exact ⟨hvalid, gas_written hvalid _⟩

/-! ## Timeouts -/

/-- The timeout that the emitter writes, with what the check has made of its field. -/
structure TimeoutWritten (n : Node) (i : EmitInputs) (plus : Bool) (zeros timeout : Nat) : Prop where
  /-- The number that the type of the field was checked for. -/
  given : ∃ v, n.Gives "timeoutMs" v plus zeros timeout
  written : (emitHttpFetch n i).value = some ("__httpJson(runtime, " ++
    braced (requestParts n i ++ ["timeoutMs: " ++ Text.spelled plus zeros timeout]) ++ ")")
  /-- As a numeral of the script, the text denotes that number only without zeros in front. -/
  denoted : Grammar.numeral? (Text.spelled plus zeros timeout) =
    if zeros = 0 then some (timeout : Int) else none

theorem timeout_written (h : (httpFetch.issues n).any FieldIssue.isBlocking = false)
    (hgiven : isMissing (n.config.get? "timeoutMs") = false) (i : EmitInputs) :
    ∃ plus zeros timeout, TimeoutWritten n i plus zeros timeout := by
  have hadmits : (optional "timeoutMs" .integer).Admits (n.config.get? "timeoutMs") :=
    any_isBlocking_issues_iff.mp h _ (by simp [httpFetch])
  obtain ⟨v, plus, zeros, timeout, hgives⟩ := exists_gives rfl hadmits (isMissing_eq_false_iff.mp hgiven)
  refine ⟨plus, zeros, timeout, ⟨v, hgives⟩, ?_, Grammar.numeral?_spelled⟩
  rw [value_emitHttpFetch, requestTimeout, scalar?_of_gives hgives]
  rfl

/-- A valid request with a timeout. -/
def polling (timeout : Json) : Node where
  id := "poll"
  category := .capability
  kind := "http-fetch"
  config := [("method", .string "GET"), ("timeoutMs", timeout), ("url", .string "https://example.com/price")]
  state := .ready
  label := none

theorem timeout_written_signed :
    (httpFetch.issues (polling (.string "+500 "))).any FieldIssue.isBlocking = false ∧
      isMissing (some (.string "+500 ")) = false ∧
      ∃ plus zeros timeout,
        TimeoutWritten (polling (.string "+500 ")) ⟨"step_poll", [], []⟩ plus zeros timeout := by
  have hvalid : (httpFetch.issues (polling (.string "+500 "))).any FieldIssue.isBlocking = false := by
    decide +kernel
  have hgiven : isMissing (some (.string "+500 ")) = false := by decide
  exact ⟨hvalid, hgiven, timeout_written hvalid hgiven _⟩

/-- A timeout is checked as 500 and written as something that is no numeral. -/
theorem padded_timeout :
    (httpFetch.issues (polling (.string "0500"))).any FieldIssue.isBlocking = false ∧
      naturalOf? (.string "0500") = some 500 ∧
      (emitHttpFetch (polling (.string "0500")) ⟨"step_poll", [], []⟩).value =
        some ("__httpJson(runtime, " ++
          "\x7b url: \"https://example.com/price\", method: \"GET\", timeoutMs: 0500 \x7d)") ∧
      Grammar.numeral? "0500" = none ∧ Grammar.numeral? "500" = some 500 := by
  decide +kernel

end Builtin

end Flowline
