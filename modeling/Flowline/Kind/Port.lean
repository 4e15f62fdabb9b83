/-!
# Ports

The types of the values that pass along edges, and which output may feed which input.
-/

namespace Flowline

inductive PortType
  | any
  /-- Chooses a branch: carries the value before it and decides whether what follows runs. -/
  | control
  | bool
  | number
  | string
  | address
  | json
  /-- A client of a chain. -/
  | chain
  /-- A contract on a chain. -/
  | contract
  deriving DecidableEq

structure Port where
  name : String
  type : PortType

namespace PortType

def all : List PortType := [any, control, bool, number, string, address, json, chain, contract]

def name : PortType → String
  | any => "any"
  | control => "control"
  | bool => "bool"
  | number => "number"
  | string => "string"
  | address => "address"
  | json => "json"
  | chain => "chain"
  | contract => "contract"

/-- Whether an input of type `target` may be fed by an output of type `source`. -/
def accepts (target source : PortType) : Bool :=
  if target = source || target = any then true
  else match source, target with
    | control, _ => false
    | _, chain => false
    | _, contract => false
    | any, _ => true
    | address, string => true
    | number, json => true
    | string, json => true
    | bool, json => true
    | _, _ => false

end PortType

end Flowline
