import Flowline.Emitter.Basic
import Flowline.Script.Expr

/-!
# The emitters of the built-in kinds
-/

namespace Flowline.Builtin

open Script

/-- Comma-separated parts between two texts. -/
def listed (opening closing : String) (parts : List String) : String :=
  opening ++ String.intercalate ", " parts ++ closing

/-- The fields of an object expression. -/
def braced (parts : List String) : String := listed "\x7b " " \x7d" parts

/-- The text of a number, or trimmed text. -/
def scalar? : Option Json → Option String
  | some (.number n) => some n.render
  | some (.string s) => some (Text.trim s)
  | _ => none

/-- The strings among the items of a list field. -/
def textItems (n : Node) (field : String) : List String :=
  (((n.field? field).bind Json.array?).getD []).filterMap Json.string?

/-! ## Triggers -/

def emitCronTrigger (n : Node) (i : EmitInputs) : Fragment :=
  let schedule := n.textOr "schedule" ""
  let schedule := match n.text? "timezone" with
    | some zone => "TZ=" ++ zone ++ " " ++ schedule
    | none => schedule
  { value := some "payload"
    outputs := [("event", i.var)]
    trigger := some
      { capability := "new cre.capabilities.CronCapability().trigger(" ++
          braced ["schedule: " ++ quote schedule] ++ ")"
        payloadType := "CronPayload" } }

/-- The comment that names the method and the path of a trigger. -/
def pathComment (method path : String) : String := "// " ++ method ++ " " ++ Text.flatten path

def emitHttpTrigger (n : Node) (i : EmitInputs) : Fragment :=
  let key (k : String) := braced ["type: \"KEY_TYPE_ECDSA_EVM\"", "publicKey: " ++ quote k]
  let keys := listed "[" "]" ((textItems n "authorizedKeys").map key)
  { setup := ((n.text? "path").map (pathComment (n.textOr "method" "POST"))).toList
    value := some ("payload.input.length > 0 ? JSON.parse(new TextDecoder().decode(payload.input))" ++
      " : \x7b\x7d")
    outputs := [("payload", i.var)]
    trigger := some
      { capability := "new cre.capabilities.HTTPCapability().trigger(" ++
          braced ["authorizedKeys: " ++ keys] ++ ")"
        payloadType := "HTTPPayload" } }

def emitEvmLogTrigger (n : Node) (i : EmitInputs) : Fragment :=
  let address (a : String) := "hexToBase64(" ++ quote a ++ ")"
  let addresses := listed "[" "]" ((textItems n "contractAddresses").map address)
  let topic := "hexToBase64(keccak256(toHex(" ++ quote (n.textOr "eventSignature" "") ++ ")))"
  { value := some "payload"
    outputs := [("log", i.var)]
    trigger := some
      { capability := i.binding "chain" ++ ".logTrigger(" ++
          braced ["addresses: " ++ addresses,
            "topics: [" ++ braced ["values: [" ++ topic ++ "]"] ++ "]",
            "confidence: \"CONFIDENCE_LEVEL_" ++ n.textOr "confidence" "FINALIZED" ++ "\""] ++ ")"
        payloadType := "EVMLog" } }

/-! ## Capabilities -/

def authorization (secret : String) : String := "Authorization: `Bearer $\x7b" ++ secret ++ "\x7d`"

/-- The headers of a request, the secret last. -/
def headers? (given secret : Option String) : Option String :=
  match given, secret with
  | some h, some s => some ("headers: " ++ braced ["..." ++ h, authorization s])
  | none, some s => some ("headers: " ++ braced [authorization s])
  | some h, none => some ("headers: " ++ h)
  | none, none => none

/-- The expression at a port, else the literal of a field. -/
def portOrField? (n : Node) (i : EmitInputs) (port field : String) : Option String :=
  match i.ports.get? port with
  | some expr => some expr
  | none => (n.field? field).map literal

def emitHttpFetch (n : Node) (i : EmitInputs) : Fragment :=
  let request :=
    ["url: " ++ i.portOr "url" (quote (n.textOr "url" "")),
      "method: " ++ quote (n.textOr "method" "GET")] ++
    (headers? ((n.field? "headers").map literal) (i.bindings.get? "auth")).toList ++
    ((portOrField? n i "body" "body").map ("body: " ++ ·)).toList ++
    ((scalar? (n.field? "timeoutMs")).map ("timeoutMs: " ++ ·)).toList
  { value := some ("__httpJson(runtime, " ++ braced request ++ ")")
    outputs := [("body", i.var ++ ".body"), ("status", i.var ++ ".status")] }

def emitEvmRead (n : Node) (i : EmitInputs) : Fragment :=
  let signature := n.textOr "functionName" ""
  let abi := match n.field? "abi" with
    | some abi => literal abi
    | none => "parseAbi([" ++ quote ("function " ++ signature) ++ "])"
  { value := some (listed "__evmRead(" ")" ["runtime", i.binding "chain", i.binding "contract",
      quote (Text.trim (Text.before '(' signature)), abi,
      (portOrField? n i "args" "args").getD "[]"])
    outputs := [("result", i.var)] }

def emitEvmWrite (n : Node) (i : EmitInputs) : Fragment :=
  let gas := (scalar? (n.field? "gasLimit")).getD "0"
  { value := some (listed "__evmWrite(" ")" ["runtime", i.binding "chain", i.binding "contract",
      "BigInt(" ++ quote gas ++ ")", i.portOr "data" (i.port "in")])
    outputs := [("txHash", i.var)] }

def emitGetSecret (_ : Node) (i : EmitInputs) : Fragment :=
  { value := some (i.binding "secret"), outputs := [("value", i.var)] }

/-! ## Logic -/

def emitDataTransform (n : Node) (i : EmitInputs) : Fragment :=
  { value := some ("((input: any) => (" ++ n.textOr "expression" "input" ++ "))(" ++ i.port "in" ++
      ")")
    outputs := [("value", i.var)] }

def emitJsonParse (largest : Nat) (n : Node) (i : EmitInputs) : Fragment :=
  { value := some (accessFor largest ("__parse(" ++ i.port "in" ++ ")") (n.textOr "path" ""))
    outputs := [("value", i.var)] }

def emitCondition (largest : Nat) (n : Node) (i : EmitInputs) : Fragment :=
  let input := i.port "in"
  let rhs := ((n.field? "value").map literal).getD "undefined"
  let test := comparison (n.textOr "operator" "exists") (accessFor largest input (n.textOr "field" "")) rhs
  { value := some ("Boolean(" ++ test ++ ")")
    outputs := [("false", input), ("result", i.var), ("true", input)]
    control := [("false", ⟨i.var, true⟩), ("true", ⟨i.var, false⟩)] }

def emitLog (n : Node) (i : EmitInputs) : Fragment :=
  let message := n.textOr "message" ""
  let message := match n.text? "level" with
    | some level => if level = "info" then message else "[" ++ level ++ "] " ++ message
    | none => message
  let line := match i.ports.get? "in" with
    | some expr => "runtime.log(" ++ quote message ++ " + \": \" + __stringify(" ++ expr ++ "));"
    | none => "runtime.log(" ++ quote message ++ ");"
  { effects := [line] }

/-! ## Contracts and chains -/

def aggregatorAbi : String :=
  "function latestRoundData() view returns (uint80, int256, uint256, uint256, uint80)"

def emitPriceFeedConsumer (n : Node) (i : EmitInputs) : Fragment :=
  { value := some (listed "__evmRead(" ")" ["runtime", i.binding "chain",
      quote (n.textOr "feedAddress" ""), "\"latestRoundData\"",
      "parseAbi([" ++ quote aggregatorAbi ++ "])", "[]"])
    outputs := [("price", i.var ++ "[1]"), ("updatedAt", i.var ++ "[3]")] }

def emitErc20Token (n : Node) (i : EmitInputs) : Fragment :=
  { value := some (quote (n.textOr "address" "") ++ " as Address")
    outputs := [("address", i.var), ("contract", i.var)] }

def emitChainSelector (_ : Node) (i : EmitInputs) : Fragment :=
  { value := some (i.binding "chain"), outputs := [("chain", i.var)] }

/-- The emitter of every built-in kind, in the order of the names, on a machine that counts to `largest`. -/
def emittersFor (largest : Nat) : Emitters :=
  let entries : List (String × (Node → EmitInputs → Fragment)) := [
    ("chain-selector", emitChainSelector), ("condition", emitCondition largest),
    ("cron-trigger", emitCronTrigger), ("data-transform", emitDataTransform),
    ("erc20-token", emitErc20Token), ("evm-log-trigger", emitEvmLogTrigger),
    ("evm-read", emitEvmRead), ("evm-write", emitEvmWrite), ("get-secret", emitGetSecret),
    ("http-fetch", emitHttpFetch), ("http-trigger", emitHttpTrigger),
    ("json-parse", emitJsonParse largest), ("log", emitLog),
    ("price-feed-consumer", emitPriceFeedConsumer)]
  entries.map fun (kind, emit) => (kind, fun n i => .ok (emit n i))

/-- The emitters on a 64-bit machine. -/
def emitters : Emitters := emittersFor Text.maxWord

end Flowline.Builtin
