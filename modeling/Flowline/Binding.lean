import Flowline.Kind.Schema
import Flowline.Script.Expr

/-!
# Bindings

How the outside resources of a node, secrets, chains and contracts, become expressions of the script,
or why they do not.
-/

namespace Flowline

/-! ## Secrets -/

/-- Named credentials: which names there are, and the values of those whose values are known. -/
structure Secrets where
  has : String → Bool
  value? : String → Option String

namespace Secrets

/-- Secrets with their values; of two with one name the later counts. -/
def ofValues (values : List (String × String)) : Secrets where
  has name := (Table.ofList values).has name
  value? name := (Table.ofList values).get? name

/-- Names without values. -/
def declared (names : List String) : Secrets where
  has name := names.contains name
  value? _ := none

/-- The environment variable in which a run finds a secret. -/
def envVar (name : String) : String :=
  "CRE_SECRET_" ++ String.ofList (name.toList.map fun c =>
    if Text.isLetterOrDigit c then c.toUpper else '_')

end Secrets

/-! ## Chains -/

/-- The known chains: for each name whether it is a test network. -/
abbrev Chains := Table Bool

def Chains.standard : Chains := Table.ofList [
  ("ethereum-testnet-sepolia", true),
  ("ethereum-mainnet", false),
  ("ethereum-testnet-sepolia-base-1", true),
  ("ethereum-mainnet-base-1", false),
  ("polygon-testnet-amoy", true),
  ("polygon-mainnet", false),
  ("ethereum-testnet-sepolia-arbitrum-1", true),
  ("ethereum-mainnet-arbitrum-1", false)]

/-! ## Resolution -/

/-- What bindings are resolved against. -/
structure Resources where
  secrets : Secrets
  chains : Chains

/-- Why a binding has no expression. -/
inductive Unbound
  | secretNotAvailable (name : String)
  | unknownChain (name : String)
  | noChain
  | notContractAddress (text : String)
  | noContractAddress
  deriving DecidableEq

def Unbound.detail : Unbound → String
  | secretNotAvailable name => "secret '" ++ name ++ "' is not available"
  | unknownChain name => "unknown chain '" ++ name ++ "'"
  | noChain => "no chain selected"
  | notContractAddress text => "'" ++ text ++ "' is not a contract address"
  | noContractAddress => "no contract address"

inductive Resolution
  | resolved (expr : String)
  | unresolved (why : Unbound)
  /-- Nothing is needed. -/
  | skipped

/-- Reads a secret when the script runs. -/
def secretExpr (name : String) : String :=
  "runtime.getSecret(\x7b id: " ++ Script.quote name ++ " \x7d).result().value"

/-- Fails when it is evaluated. -/
def placeholderExpr (detail : String) : String := "__unresolved(" ++ Script.quote detail ++ ")"

def chainExpr (name : String) (testnet : Bool) : String :=
  "__evmClient(" ++ Script.quote name ++ ", " ++ toString testnet ++ ")"

/-- The expression of a binding of a node.  `feed` is the expression at the binding's port, if that is
connected. -/
def BindingSpec.resolve (spec : BindingSpec) (n : Node) (feed : Option String) (r : Resources) :
    Resolution :=
  match spec, feed with
  | .secret _ field, _ =>
    match n.text? field with
    | none => .skipped
    | some name =>
      if r.secrets.has name then .resolved (secretExpr name)
      else .unresolved (.secretNotAvailable name)
  | .chain _ _ _, some expr => .resolved expr
  | .chain _ field _, none =>
    match n.text? field with
    | none => .unresolved .noChain
    | some name =>
      match r.chains.get? name with
      | some testnet => .resolved (chainExpr name testnet)
      | none => .unresolved (.unknownChain name)
  | .contract _ _ _, some expr => .resolved expr
  | .contract _ field _, none =>
    match n.text? field with
    | none => .unresolved .noContractAddress
    | some text =>
      if isAddress text then .resolved (Script.quote text)
      else .unresolved (.notContractAddress text)

end Flowline
