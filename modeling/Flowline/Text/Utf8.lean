/-!
# Decoding UTF-8

Bytes to characters when the bytes may be ill-formed: every longest prefix of a character that is
not continued as it should be becomes one replacement character.
-/

namespace Flowline.Text.Utf8

/-- A character of which some bytes have been read: its bits so far, the number of bytes to come and
the bounds of the next one. -/
structure Pending where
  bits : Nat
  missing : Nat
  low : Nat
  high : Nat

/-- What a first byte announces. -/
inductive Lead
  | char (c : Char)
  | more (p : Pending)
  | bad

def lead (b : UInt8) : Lead :=
  let n := b.toNat
  if n < 0x80 then .char (Char.ofNat n)
  else if 0xC2 ≤ n && n ≤ 0xDF then .more ⟨n - 0xC0, 1, 0x80, 0xBF⟩
  else if n == 0xE0 then .more ⟨0, 2, 0xA0, 0xBF⟩
  else if n == 0xED then .more ⟨0xD, 2, 0x80, 0x9F⟩
  else if 0xE1 ≤ n && n ≤ 0xEF then .more ⟨n - 0xE0, 2, 0x80, 0xBF⟩
  else if n == 0xF0 then .more ⟨0, 3, 0x90, 0xBF⟩
  else if n == 0xF4 then .more ⟨4, 3, 0x80, 0x8F⟩
  else if 0xF1 ≤ n && n ≤ 0xF3 then .more ⟨n - 0xF0, 3, 0x80, 0xBF⟩
  else .bad

/-- Stands for bytes that are not UTF-8. -/
def replacement : Char := '\uFFFD'

/-- The characters of `bytes`, read after the bytes that `pending` stands for. -/
def chars : Option Pending → List UInt8 → List Char
  | none, [] => []
  | some _, [] => [replacement]
  | none, b :: bs =>
    match lead b with
    | .char c => c :: chars none bs
    | .more p => chars (some p) bs
    | .bad => replacement :: chars none bs
  | some p, b :: bs =>
    let n := b.toNat
    if p.low ≤ n && n ≤ p.high then
      let bits := 64 * p.bits + (n - 0x80)
      if p.missing ≤ 1 then Char.ofNat bits :: chars none bs
      else chars (some ⟨bits, p.missing - 1, 0x80, 0xBF⟩) bs
    else
      match lead b with
      | .char c => replacement :: c :: chars none bs
      | .more q => replacement :: chars (some q) bs
      | .bad => replacement :: replacement :: chars none bs

/-- The text of `bytes`, with a replacement character for every ill-formed stretch. -/
def decode (bytes : List UInt8) : String := String.ofList (chars none bytes)

/-- The bytes of a text. -/
def encode (s : String) : List UInt8 := s.toList.flatMap String.utf8EncodeChar

end Flowline.Text.Utf8
