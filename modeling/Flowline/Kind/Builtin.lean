import Flowline.Kind.Schema

/-!
# The built-in kinds
-/

namespace Flowline.Builtin

/-- The most gas a transaction may be given. -/
def maxGas : Nat := 5000000

/-- The most contracts a trigger may watch. -/
def maxWatched : Nat := 5

def httpMethods : List String := ["GET", "POST", "PUT", "DELETE", "PATCH", "HEAD"]

def confidenceLevels : List String := ["SAFEST", "LATEST", "FINALIZED"]

def operators : List String :=
  ["equals", "notEquals", "gt", "gte", "lt", "lte", "contains", "exists"]

def logLevels : List String := ["info", "warn", "error"]

/-- The natural number that a value or its text spells. -/
def naturalOf? : Json → Option Nat
  | .number n => n.natural?
  | .string s => Text.natural? (Text.trim s)
  | _ => none

/-- At most `maxGas`. -/
def gasWithinCeiling : Constraint := fun v =>
  match naturalOf? v with
  | none => none
  | some gas =>
    if maxGas < gas then
      some ("gas limit " ++ toString gas ++ " exceeds maximum " ++ toString maxGas)
    else none

/-- From one to `maxWatched` addresses. -/
def watchedWithinCeiling : Constraint := fun v =>
  match v.array? with
  | none => none
  | some items =>
    if items.isEmpty then some "at least one contract address is required"
    else if maxWatched < items.length then
      some (toString items.length ++ " contract addresses given, at most " ++ toString maxWatched ++
        " allowed")
    else none

def required (name : String) (type : FieldType) : FieldSpec := ⟨name, type, true, none⟩

def optional (name : String) (type : FieldType) : FieldSpec := ⟨name, type, false, none⟩

def cronTrigger : KindSchema where
  kind := "cron-trigger"
  category := .trigger
  fields := [required "schedule" .cron, optional "timezone" .string]
  inputs := []
  outputs := [⟨"event", .json⟩]
  bindings := []
  effect := false
  description := "Fires on a cron schedule."

def httpTrigger : KindSchema where
  kind := "http-trigger"
  category := .trigger
  fields := [required "method" (.oneOf httpMethods), optional "path" .string,
    optional "authorizedKeys" .stringList]
  inputs := []
  outputs := [⟨"payload", .json⟩]
  bindings := []
  effect := false
  description := "Fires on an inbound HTTP request."

def evmLogTrigger : KindSchema where
  kind := "evm-log-trigger"
  category := .trigger
  fields := [required "chainName" .chainName,
    ⟨"contractAddresses", .addressList, true, some watchedWithinCeiling⟩,
    required "eventSignature" .string, optional "confidence" (.oneOf confidenceLevels)]
  inputs := []
  outputs := [⟨"log", .json⟩]
  bindings := [.chain "chain" "chainName" none]
  effect := false
  description := "Fires when a watched contract emits a matching event."

def httpFetch : KindSchema where
  kind := "http-fetch"
  category := .capability
  fields := [required "url" .url, required "method" (.oneOf httpMethods), optional "headers" .json,
    optional "body" .json, optional "authSecret" .secretName, optional "timeoutMs" .integer]
  inputs := [⟨"in", .any⟩, ⟨"url", .string⟩, ⟨"body", .json⟩]
  outputs := [⟨"body", .json⟩, ⟨"status", .number⟩]
  bindings := [.secret "auth" "authSecret"]
  effect := false
  description := "Fetches JSON over HTTP with consensus on the response."

def evmRead : KindSchema where
  kind := "evm-read"
  category := .capability
  fields := [optional "chainName" .chainName, optional "contractAddress" .address,
    required "functionName" .string, optional "abi" .json, optional "args" .json]
  inputs := [⟨"in", .any⟩, ⟨"chain", .chain⟩, ⟨"contract", .contract⟩, ⟨"args", .json⟩]
  outputs := [⟨"result", .json⟩]
  bindings := [.chain "chain" "chainName" (some "chain"),
    .contract "contract" "contractAddress" (some "contract")]
  effect := false
  description := "Calls a view function on a contract."

def evmWrite : KindSchema where
  kind := "evm-write"
  category := .capability
  fields := [optional "chainName" .chainName, optional "contractAddress" .address,
    ⟨"gasLimit", .integer, true, some gasWithinCeiling⟩]
  inputs := [⟨"in", .any⟩, ⟨"chain", .chain⟩, ⟨"contract", .contract⟩, ⟨"data", .json⟩]
  outputs := [⟨"txHash", .string⟩]
  bindings := [.chain "chain" "chainName" (some "chain"),
    .contract "contract" "contractAddress" (some "contract")]
  effect := true
  description := "Submits a signed report to a receiver contract."

def getSecret : KindSchema where
  kind := "get-secret"
  category := .capability
  fields := [required "secretName" .secretName]
  inputs := [⟨"in", .any⟩]
  outputs := [⟨"value", .string⟩]
  bindings := [.secret "secret" "secretName"]
  effect := false
  description := "Reads a named secret."

def dataTransform : KindSchema where
  kind := "data-transform"
  category := .logic
  fields := [required "expression" .string]
  inputs := [⟨"in", .any⟩]
  outputs := [⟨"value", .json⟩]
  bindings := []
  effect := false
  description := "Evaluates an expression over `input`."

def jsonParse : KindSchema where
  kind := "json-parse"
  category := .logic
  fields := [optional "path" .string]
  inputs := [⟨"in", .any⟩]
  outputs := [⟨"value", .json⟩]
  bindings := []
  effect := false
  description := "Parses JSON text and optionally selects a dotted path."

def condition : KindSchema where
  kind := "condition"
  category := .logic
  fields := [optional "field" .string, required "operator" (.oneOf operators),
    optional "value" .any]
  inputs := [⟨"in", .any⟩]
  outputs := [⟨"result", .bool⟩, ⟨"true", .control⟩, ⟨"false", .control⟩]
  bindings := []
  effect := false
  description := "Routes its input to the `true` or `false` branch."

def log : KindSchema where
  kind := "log"
  category := .logic
  fields := [required "message" .string, optional "level" (.oneOf logLevels)]
  inputs := [⟨"in", .any⟩]
  outputs := []
  bindings := []
  effect := true
  description := "Writes a line to the workflow log."

def priceFeedConsumer : KindSchema where
  kind := "price-feed-consumer"
  category := .contract
  fields := [optional "chainName" .chainName, required "feedAddress" .address]
  inputs := [⟨"in", .any⟩, ⟨"chain", .chain⟩]
  outputs := [⟨"price", .number⟩, ⟨"updatedAt", .number⟩]
  bindings := [.chain "chain" "chainName" (some "chain")]
  effect := false
  description := "Reads the latest round of a price feed aggregator."

def erc20Token : KindSchema where
  kind := "erc20-token"
  category := .contract
  fields := [required "address" .address, optional "symbol" .string, optional "decimals" .integer]
  inputs := []
  outputs := [⟨"contract", .contract⟩, ⟨"address", .address⟩]
  bindings := []
  effect := false
  description := "Declares an ERC-20 token contract."

def chainSelector : KindSchema where
  kind := "chain-selector"
  category := .chainConfig
  fields := [required "chainName" .chainName]
  inputs := []
  outputs := [⟨"chain", .chain⟩]
  bindings := [.chain "chain" "chainName" none]
  effect := false
  description := "Selects the chain for downstream on-chain nodes."

/-- Every built-in kind, in the order of the names. -/
def kinds : List KindSchema := [chainSelector, condition, cronTrigger, dataTransform, erc20Token,
  evmLogTrigger, evmRead, evmWrite, getSecret, httpFetch, httpTrigger, jsonParse, log,
  priceFeedConsumer]

def schemas : Schemas := kinds.map fun s => (s.kind, s)

end Flowline.Builtin
