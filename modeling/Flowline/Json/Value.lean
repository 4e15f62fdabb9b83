import Flowline.Json.Reader

/-!
# Reading whole JSON values

`value room` reads a value in which lists and objects nest at most `room` deep.  `skip` passes over a
value of any depth and checks its syntax only: neither the range of its numbers nor the pairing of
its surrogates.
-/

namespace Flowline.Json

namespace Reader

/-- How deep the lists and objects of a document may nest. -/
def maxDepth : Nat := 127

/-- A value in which lists and objects nest at most `room` deep. -/
def value : Nat → Reader Json
  | room, cs =>
    match skipSpace cs with
    | [] => .error (.unfinished .value)
    | c :: rest =>
      if c = 'n' then do return (.null, ← word "ull".toList rest)
      else if c = 't' then do return (.bool true, ← word "rue".toList rest)
      else if c = 'f' then do return (.bool false, ← word "alse".toList rest)
      else if c = '-' || c.isDigit then do
        let (n, rest) ← number (c :: rest)
        return (.number n, rest)
      else if c = '"' then do
        let (s, rest) ← textTail rest
        return (.string s, rest)
      else if c = '[' then
        match room with
        | 0 => .error .tooDeep
        | room + 1 => do
          let (vs, rest) ← items (value room) (rest.length + 1) true [] rest
          return (.array vs, rest)
      else if c = '\x7b' then
        match room with
        | 0 => .error .tooDeep
        | room + 1 => do
          let member := fun (ms : Members) (key : String) (cs : List Char) => do
            let (v, cs) ← value room (← colon cs)
            return (ms.insert key v, cs)
          let (ms, rest) ← members member (rest.length + 1) true [] rest
          return (.object ms, rest)
      else .error .expectedValue

/-! ## Skipping -/

/-- Where in a string literal of no interest a reader stands. -/
inductive SkipState
  | plain
  | escape
  | hex (missing : Nat)

/-- The rest after a string literal of no interest, from after its opening quote. -/
def skipText : SkipState → List Char → Except Fault (List Char)
  | _, [] => .error (.unfinished .string)
  | .plain, c :: cs =>
    if c = '"' then .ok cs
    else if c = '\\' then skipText .escape cs
    else if c.toNat < 0x20 then .error .controlCharacter
    else skipText .plain cs
  | .escape, c :: cs =>
    if c = 'u' then
      if hasFourBytes cs then skipText (.hex 4) cs else .error (.unfinished .string)
    else if (escaped? c).isSome then skipText .plain cs
    else .error .badEscape
  | .hex missing, c :: cs =>
    if (Text.hexValue? c).isNone then .error .badEscape
    else if 1 < missing then skipText (.hex (missing - 1)) cs
    else skipText .plain cs

/-- The rest after an exponent of no interest, from after its mark. -/
def skipExponent (cs : List Char) : Except Fault (List Char) :=
  let ds := Text.dropSign cs
  if (ds.takeWhile Char.isDigit).isEmpty then .error .badNumber
  else .ok (ds.dropWhile Char.isDigit)

/-- The rest after a number of no interest, from after its sign. -/
def skipUnsigned (cs : List Char) : Except Fault (List Char) :=
  match wholePart cs with
  | .error _ => .error .badNumber
  | .ok (_, rest) =>
    match rest with
    | '.' :: rest =>
      if (rest.takeWhile Char.isDigit).isEmpty then .error .badNumber
      else match rest.dropWhile Char.isDigit with
        | 'e' :: rest => skipExponent rest
        | 'E' :: rest => skipExponent rest
        | rest => .ok rest
    | 'e' :: rest => skipExponent rest
    | 'E' :: rest => skipExponent rest
    | rest => .ok rest

/-- A list or an object that has been entered. -/
inductive Frame
  | list
  | object

/-- Closes what ends here, outermost last; gives the frame whose next item follows, if any, and the
rest.  A comma is wanted before that item unless the frame has just been entered. -/
def closeFrames : Bool → List Frame → List Char → Nat →
    Except Fault (List Frame × List Char)
  | _, [], cs, _ => .ok ([], cs)
  | _, frames, cs, 0 => .ok (frames, cs)
  | entered, frame :: frames, cs, fuel + 1 =>
    match frame, skipSpace cs with
    | .list, [] => .error (.unfinished .list)
    | .object, [] => .error (.unfinished .object)
    | .list, ']' :: rest => closeFrames false frames rest fuel
    | .object, '\x7d' :: rest => closeFrames false frames rest fuel
    | frame, c :: rest =>
      if entered then .ok (frame :: frames, c :: rest)
      else if c = ',' then .ok (frame :: frames, rest)
      else match frame with
        | .list => .error .expectedListEnd
        | .object => .error .expectedObjectEnd

/-- The rest after a key of no interest and its colon. -/
def skipKey (cs : List Char) : Except Fault (List Char) :=
  match skipSpace cs with
  | [] => .error (.unfinished .object)
  | '"' :: rest => do colon (← skipText .plain rest)
  | _ => .error .keyNotString

/-- The rest after a value inside the given frames and after all that closes them; each round passes
over one scalar or one opening bracket. -/
def skipIn : Nat → List Frame → List Char → Except Fault (List Char)
  | 0, _, _ => .error (.unfinished .value)
  | fuel + 1, frames, cs => do
    let go (entered : Bool) (frames : List Frame) (cs : List Char) := do
      let (frames, cs) ← closeFrames entered frames cs (cs.length + 1)
      match frames with
      | [] => return cs
      | .list :: _ => skipIn fuel frames cs
      | .object :: _ => skipIn fuel frames (← skipKey cs)
    match skipSpace cs with
    | [] => throw (.unfinished .value)
    | c :: rest =>
      if c = 'n' then go false frames (← word "ull".toList rest)
      else if c = 't' then go false frames (← word "rue".toList rest)
      else if c = 'f' then go false frames (← word "alse".toList rest)
      else if c = '-' then go false frames (← skipUnsigned rest)
      else if c.isDigit then go false frames (← skipUnsigned (c :: rest))
      else if c = '"' then go false frames (← skipText .plain rest)
      else if c = '[' then go true (.list :: frames) rest
      else if c = '\x7b' then go true (.object :: frames) rest
      else throw .expectedValue

/-- Passes over a value of any depth. -/
def skip : Reader Unit := fun cs => do return ((), ← skipIn (cs.length + 1) [] cs)

end Reader

/-- The value that a text denotes. -/
def parse (s : String) : Except Fault Json := Reader.finish (Reader.value Reader.maxDepth s.toList)

end Flowline.Json
