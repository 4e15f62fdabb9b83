import Flowline.Simulation.Event
import Flowline.Text.Utf8

/-!
# Output as lines

The bytes that a program writes arrive in chunks and are cut into lines.  A line ends at a line feed;
one that grows to the bound is cut there.  Lengths are 64-bit words.
-/

namespace Flowline.Simulation.Lines

/-- The bytes of a line, and whether a line feed ended it. -/
structure Piece where
  bytes : List UInt8
  ended : Bool
  deriving DecidableEq

def lineFeed : UInt8 := 10

def carriageReturn : UInt8 := 13

/-- What stands before and after the first line feed, if there is one among the first `n` bytes; `passed`
are the bytes before these, the last one first. -/
def cutFrom : Nat → List UInt8 → List UInt8 → Option (List UInt8 × List UInt8)
  | 0, _, _ => none
  | _ + 1, _, [] => none
  | n + 1, passed, b :: bytes =>
    if b = lineFeed then some (passed.reverse, bytes) else cutFrom n (b :: passed) bytes

/-- What stands before and after the first line feed, if there is one among the first `n` bytes. -/
def cutAtLineFeed (n : Nat) (bytes : List UInt8) : Option (List UInt8 × List UInt8) := cutFrom n [] bytes

/-- The number of bytes looked at in one go: one more than there is room for, so that a line feed right
at the bound still ends the line. -/
def reach (maxLine : Nat) (buffer : List UInt8) : Nat := (maxLine - buffer.length + 1) % UInt64.size

/-- The outcome of one look at what has arrived. -/
structure Look where
  /-- A line that is complete now. -/
  piece : Option Piece
  /-- The bytes of the line that is not. -/
  buffer : List UInt8
  /-- What is left of the chunk. -/
  rest : List UInt8

/-- One look at a chunk, after the bytes in the buffer. -/
def look (maxLine : Nat) (buffer chunk : List UInt8) : Look :=
  match cutAtLineFeed (reach maxLine buffer) chunk with
  | some (line, rest) => ⟨some ⟨buffer ++ line, true⟩, [], rest⟩
  | none =>
    let n := min (reach maxLine buffer) (maxLine - buffer.length)
    let filled := buffer ++ chunk.take n
    if maxLine ≤ filled.length then ⟨some ⟨filled, false⟩, [], chunk.drop n⟩
    else ⟨none, filled, chunk.drop n⟩

/-- The lines that a chunk completes, and the bytes of the line that it leaves open; at most `fuel`
looks. -/
def feed (maxLine : Nat) : Nat → List UInt8 → List UInt8 → List Piece × List UInt8
  | 0, buffer, _ => ([], buffer)
  | _, buffer, [] => ([], buffer)
  | fuel + 1, buffer, chunk =>
    let l := look maxLine buffer chunk
    let (pieces, buffer) := feed maxLine fuel l.buffer l.rest
    (l.piece.toList ++ pieces, buffer)

/-- The lines that several chunks complete, and the bytes of the line that they leave open. -/
def feedAll (maxLine : Nat) (buffer : List UInt8) : List (List UInt8) → List Piece × List UInt8
  | [] => ([], buffer)
  | chunk :: chunks =>
    let (pieces, buffer) := feed maxLine (chunk.length + 1) buffer chunk
    let (others, buffer) := feedAll maxLine buffer chunks
    (pieces ++ others, buffer)

/-- The line that is open at the end of the output. -/
def flush (buffer : List UInt8) : List Piece := if buffer.isEmpty then [] else [⟨buffer, false⟩]

/-- The lines of the chunks that follow the bytes in the buffer. -/
def piecesFrom (maxLine : Nat) (buffer : List UInt8) (chunks : List (List UInt8)) : List Piece :=
  let (pieces, buffer) := feedAll maxLine buffer chunks
  pieces ++ flush buffer

/-- Bytes in pieces of some size, of which the last may be shorter. -/
def cut (size : Nat) (bytes : List UInt8) : List (List UInt8) :=
  if h : size = 0 ∨ (bytes.drop size).isEmpty then [bytes]
  else
    have : (bytes.drop size).length < bytes.length := by
      simp only [List.isEmpty_iff, List.drop_eq_nil_iff, not_or] at h
      simp only [List.length_drop]
      omega
    bytes.take size :: cut size (bytes.drop size)
termination_by bytes.length

/-- The most bytes in a chunk. -/
def chunkSize : Nat := 8192

/-- The chunks in which bytes arrive that were written in one go. -/
def arrivals (bytes : List UInt8) : List (List UInt8) := cut chunkSize bytes

/-- The lines of all chunks. -/
def pieces (maxLine : Nat) (chunks : List (List UInt8)) : List Piece := piecesFrom maxLine [] chunks

/-- The bytes without one carriage return at the end. -/
def dropCarriageReturn (bytes : List UInt8) : List UInt8 :=
  if bytes.getLast? = some carriageReturn then bytes.dropLast else bytes

/-- The text of a line. -/
def Piece.text (p : Piece) : String := Text.Utf8.decode (dropCarriageReturn p.bytes)

/-- The bound on the lines of a session that records so many bytes. -/
def bound (maxOutputBytes : Nat) : Nat := max maxOutputBytes 1

end Flowline.Simulation.Lines
