import Flowline.Json.Value

/-!
# Reading values of a known shape

A document is read straight into the values that it should hold, so that the first thing wrong with it,
in syntax or in shape, is what is reported.  A record is written as an object or as the array of its
fields in order; fields that it does not know are passed over.
-/

namespace Flowline.Json.Reader

/-- The fault of finding, at the start of `cs`, something other than what is wanted. -/
def mismatch (wanted : String) (cs : List Char) : Fault :=
  let found : Except Fault Found := match skipSpace cs with
    | [] => .error (.unfinished .value)
    | c :: rest =>
      if c = 'n' then (word "ull".toList rest).map fun _ => .null
      else if c = 't' then (word "rue".toList rest).map fun _ => .bool true
      else if c = 'f' then (word "alse".toList rest).map fun _ => .bool false
      else if c = '-' || c.isDigit then (number (c :: rest)).map fun (n, _) => .number n
      else if c = '"' then (textTail rest).map fun (s, _) => .string s
      else if c = '[' then .ok .sequence
      else if c = '\x7b' then .ok .map
      else .error .expectedValue
  match found with
  | .ok found => .wrongType found wanted
  | .error fault => fault

/-- A string. -/
def string : Reader String := fun cs =>
  match skipSpace cs with
  | '"' :: rest => textTail rest
  | cs => .error (mismatch "a string" cs)

/-- A string or `null`. -/
def string? : Reader (Option String) := fun cs =>
  match skipSpace cs with
  | 'n' :: rest => do return (none, ← word "ull".toList rest)
  | cs => do
    let (s, cs) ← string cs
    return (some s, cs)

/-- A whole number that is not negative, of a type of the given name. -/
def natural (wanted : String) : Reader Nat := fun cs =>
  match skipSpace cs with
  | c :: rest =>
    if c = '-' || c.isDigit then do
      let (n, rest) ← number (c :: rest)
      match n with
      | .int i => if 0 ≤ i then return (i.toNat, rest) else throw (.wrongSign i wanted)
      | .float _ => throw (.wrongType (.number n) wanted)
    else .error (mismatch wanted (c :: rest))
  | [] => .error (.unfinished .value)

/-- `null`. -/
def unit : Reader Unit := fun cs =>
  match skipSpace cs with
  | 'n' :: rest => do return ((), ← word "ull".toList rest)
  | cs => .error (mismatch "unit" cs)

/-- A list; one level of the room is used up. -/
def list (room : Nat) (item : Nat → Reader α) : Reader (List α) := fun cs =>
  match skipSpace cs with
  | '[' :: rest =>
    match room with
    | 0 => .error .tooDeep
    | room + 1 => items (item room) (rest.length + 1) true [] rest
  | cs => .error (mismatch "a sequence" cs)

/-- An object as a table; of two members with one key the later counts. -/
def table (room : Nat) (insert : σ → String → α → σ) (empty : σ) (item : Nat → Reader α) :
    Reader σ := fun cs =>
  match skipSpace cs with
  | '\x7b' :: rest =>
    match room with
    | 0 => .error .tooDeep
    | room + 1 =>
      let member := fun (t : σ) (key : String) (cs : List Char) => do
        let (v, cs) ← item room (← colon cs)
        return (insert t key v, cs)
      members member (rest.length + 1) true empty rest
  | cs => .error (mismatch "a map" cs)

/-- One of a list of named alternatives: its name, or an object from its name to `null`. -/
def variant (room : Nat) (known : List (String × α)) : Reader α := fun cs =>
  let ofName (name : String) : Except Fault α := match known.lookup name with
    | some a => .ok a
    | none => .error (.unknownVariant name (known.map Prod.fst))
  match skipSpace cs with
  | [] => .error (.unfinished .value)
  | '"' :: rest => do
    let (name, rest) ← textTail rest
    return (← ofName name, rest)
  | '\x7b' :: rest =>
    match room with
    | 0 => .error .tooDeep
    | _ + 1 => do
      let (name, rest) ← match skipSpace rest with
        | '"' :: rest => textTail rest
        | cs => .error (mismatch "variant identifier" cs)
      let a ← ofName name
      let ((), rest) ← unit (← colon rest)
      match skipSpace rest with
      | [] => throw (.unfinished .object)
      | '\x7d' :: rest => return (a, rest)
      | _ => throw .expectedValue
  | _ => .error .expectedValue

/-! ## Records -/

/-- A field of a record that is kept in a draft of type `σ` while the record is read. -/
structure Field (σ : Type) where
  name : String
  isSet : σ → Bool
  /-- Reads the field's value into the draft, with room for some more levels. -/
  read : Nat → σ → Reader σ

/-- A field from how its value is got, set and read. -/
def Field.of (name : String) (get : σ → Option β) (set : β → σ → σ) (read : Nat → Reader β) :
    Field σ where
  name := name
  isSet s := (get s).isSome
  read room s cs := do
    let (b, cs) ← read room cs
    return (set b s, cs)

/-- A record of type `α`, drafted as `σ`. -/
structure Record (σ α : Type) where
  name : String
  fields : List (Field σ)
  empty : σ
  /-- The record of a draft.  The function given makes a fault of the place and the name of the first
  field that is wanted and not set. -/
  close : (Nat → String → Fault) → σ → Except Fault α

/-- The value of a field that has to be set. -/
def require (fault : Fault) : Option β → Except Fault β
  | some b => .ok b
  | none => .error fault

/-- The fields of a record written as an array, until either ends. -/
def fieldsInOrder (room : Nat) : List (Field σ) → Bool → σ → Reader σ
  | [], _, s, cs => .ok (s, cs)
  | f :: fs, first, s, cs => do
    match ← nextItem first cs with
    | none => return (s, cs)
    | some cs =>
      let (s, cs) ← f.read room s cs
      fieldsInOrder room fs false s cs

/-- A member of a record written as an object. -/
def fieldNamed (room : Nat) (fields : List (Field σ)) (s : σ) (key : String) : Reader σ := fun cs =>
  match fields.find? (·.name = key) with
  | some f =>
    if f.isSet s then .error (.duplicateField key)
    else do f.read room s (← colon cs)
  | none => do
    let ((), cs) ← skip (← colon cs)
    return (s, cs)

/-- A record. -/
def record (r : Record σ α) (room : Nat) : Reader α := fun cs =>
  match skipSpace cs with
  | '[' :: rest =>
    match room with
    | 0 => .error .tooDeep
    | room + 1 => do
      let (s, rest) ← fieldsInOrder room r.fields true r.empty rest
      let a ← r.close (fun i _ => .wrongLength i r.name r.fields.length) s
      return (a, ← endList rest)
  | '\x7b' :: rest =>
    match room with
    | 0 => .error .tooDeep
    | room + 1 => do
      let (s, rest) ← members (fieldNamed room r.fields) (rest.length + 1) true r.empty rest
      return (← r.close (fun _ name => .missingField name) s, rest)
  | cs => .error (mismatch r.name cs)

/-- What a whole text denotes, read by a reader with the room of a document. -/
def document (read : Nat → Reader α) (s : String) : Except Fault α :=
  finish (read maxDepth s.toList)

end Flowline.Json.Reader
