import Flowline.Proofs.Lines.Pieces
import Flowline.Proofs.Simulation.Logging
import Flowline.Proofs.Text.Lossy

/-!
# The sizes of lines

A line is cut at a bound on its bytes, and the session that records it counts the bytes of its text.  The two
are the same for a line that is UTF-8; a broken stretch makes the text longer than the bytes, be it that the line
is cut within a character or that it is no text, and then the text can be beyond a bound that the bytes are
within (`measured_pieces`).
-/

namespace Flowline.Simulation.Lines

open Text.Utf8 (Stretch Lossy Begins encode)

variable {maxLine : Nat} {bytes : List UInt8} {chunks : List (List UInt8)} {p : Piece}

/-! ## The text of a line -/

theorem dropCarriageReturn_isPrefix (bytes : List UInt8) : dropCarriageReturn bytes <+: bytes := by
  unfold dropCarriageReturn
  split
  · exact List.dropLast_prefix bytes
  · exact List.prefix_rfl

/-- A new session records a line of output that is within its bound, and the marker for one that is not. -/
theorem logs_append_new (id pipeline : String) {l : LogLine} (hl : l.isOutput = true) :
    ((Session.new id pipeline).append maxLine l).2.logs =
      #[if l.line.utf8ByteSize ≤ maxLine then l else Session.marker] := by
  have hstream : l.stream ≠ .system := by simpa [LogLine.isOutput] using hl
  by_cases hover : maxLine < l.line.utf8ByteSize
  · have hnot : ¬l.line.utf8ByteSize ≤ maxLine := Nat.not_le_of_lt hover
    simp [Session.append, Session.new, Session.push, Status.isTerminal, hstream, hover, hnot, Session.marker]
  · have hfits : l.line.utf8ByteSize ≤ maxLine := Nat.le_of_not_lt hover
    simp [Session.append, Session.new, Session.push, Status.isTerminal, hstream, hover, hfits]

/-- How long the text of a line is, whose bytes are within a bound. -/
structure Measured (maxLine : Nat) (p : Piece) : Prop where
  bytes_le : p.bytes.length ≤ maxLine
  /-- As long as the bytes, and by so much longer as the characters that stand for broken stretches. -/
  size : ∃ ss, Lossy (dropCarriageReturn p.bytes) ss ∧ p.text = String.ofList (ss.map Stretch.char) ∧
    p.text.utf8ByteSize = (dropCarriageReturn p.bytes).length + (ss.map Stretch.growth).sum
  size_le : p.text.utf8ByteSize ≤ 3 * maxLine
  /-- A line that is UTF-8 is within the bound. -/
  fits {s : String} (h : dropCarriageReturn p.bytes = encode s) : p.text = s ∧ s.utf8ByteSize ≤ maxLine
  logged (id pipeline : String) {l : LogLine} (hl : l.isOutput = true) (hline : l.line = p.text) :
    ((Session.new id pipeline).append maxLine l).2.logs =
      #[if p.text.utf8ByteSize ≤ maxLine then l else Session.marker]

theorem Fits.measured (h : Fits maxLine p.bytes) : Measured maxLine p := by
  obtain ⟨ss, hlossy, htext⟩ := Text.Utf8.exists_lossy (dropCarriageReturn p.bytes)
  have htext : p.text = String.ofList (ss.map Stretch.char) := htext
  have hsize : p.text.utf8ByteSize = (dropCarriageReturn p.bytes).length + (ss.map Stretch.growth).sum := by
    rw [htext, hlossy.size]
  have hbytes := (dropCarriageReturn_isPrefix p.bytes).length_le
  have hgrowth := hlossy.growth_le
  have hlength := h.length_le
  refine ⟨hlength, ⟨ss, hlossy, htext, hsize⟩, by omega, ?_, ?_⟩
  · intro s hs
    have hdecode : p.text = s := by rw [Piece.text, hs, Text.Utf8.decode_encode]
    have hlen : (encode s).length = s.utf8ByteSize := by
      rw [encode, List.length_flatMap, ← String.ofList_toList (s := s), Text.Utf8.utf8ByteSize_ofList]
      simp
    exact ⟨hdecode, by rw [← hlen, ← hs]; omega⟩
  · intro id pipeline l hl hline
    rw [logs_append_new id pipeline hl, hline]

/-- The beginning of a text is cut within its last character at most. -/
theorem Measured.size_le_of_isPrefix {s : String} (h : Measured maxLine p) (hpre : p.bytes <+: encode s) :
    p.text.utf8ByteSize ≤ maxLine + 2 := by
  obtain ⟨ss, hlossy, -, hsize⟩ := h.size
  have hgrowth := hlossy.growth_le_of_isPrefix ((dropCarriageReturn_isPrefix p.bytes).trans hpre)
  have hlength := (dropCarriageReturn_isPrefix p.bytes).length_le
  have hbytes := h.bytes_le
  omega

theorem bytes_isPrefix (hpos : 1 ≤ maxLine) (hword : maxLine + 1 < UInt64.size)
    (h : (pieces maxLine chunks).head? = some p) : p.bytes <+: chunks.flatten := by
  obtain ⟨ps, hps⟩ := List.head?_eq_some_iff.mp h
  rw [← (conserved_pieces hpos hword chunks).written, hps, List.flatMap_cons, Piece.written, List.append_assoc]
  exact List.prefix_append _ _

/-! ## Bytes that are no text -/

/-- A byte that no character has. -/
def noise : UInt8 := 0xFF

theorem not_begins_noise : ¬Begins [noise] := by
  rintro ⟨c, hc⟩
  have hcases := Text.Utf8.cases_of_begins hc
  have hvalid := Text.Utf8.toNat_cases c
  have hb : noise.toNat = 255 := rfl
  omega

theorem lossy_noise (n : Nat) : Lossy (List.replicate n noise) (List.replicate n (.broken [noise])) := by
  induction n with
  | zero => exact .nil
  | succ n ih => exact ih.broken (Text.Utf8.broken_of_not_begins not_begins_noise)

theorem size_noise (hbytes : p.bytes = List.replicate maxLine noise) : p.text.utf8ByteSize = 3 * maxLine := by
  have hdrop : dropCarriageReturn p.bytes = List.replicate maxLine noise := by
    rw [dropCarriageReturn, hbytes, List.getLast?_replicate, if_neg]
    split_ifs <;> simp [noise, carriageReturn]
  rw [Piece.text, hdrop, (lossy_noise maxLine).decode_eq, (lossy_noise maxLine).size]
  simp [Stretch.growth, show Text.Utf8.replacement.utf8Size = 3 from rfl]
  omega

/-- A line as long as the bound comes in one piece. -/
theorem exists_mem_pieces (hpos : 1 ≤ maxLine) (hword : maxLine + 1 < UInt64.size) (hline : lineFeed ∉ bytes)
    (hlength : bytes.length = maxLine) : ∃ p ∈ pieces maxLine [bytes], p.bytes = bytes := by
  have h := conserved_pieces hpos hword [bytes]
  rw [List.flatten_singleton] at h
  cases hps : pieces maxLine [bytes] with
  | nil =>
    rw [← h.written, hps] at hlength
    simp at hlength
    omega
  | cons p ps =>
    have hwritten := h.written
    rw [hps, List.flatMap_cons] at hwritten
    have hopen : p.ended = false := by
      rw [Bool.eq_false_iff]
      intro hended
      rw [← hwritten] at hline
      simp [Piece.written, hended] at hline
    have hpre : p.bytes <+: bytes := by
      refine ⟨ps.flatMap Piece.written, ?_⟩
      rw [← hwritten]
      simp [Piece.written, hopen]
    refine ⟨p, List.mem_cons_self, ?_⟩
    rcases h.last_or_full (show pieces maxLine [bytes] = [] ++ p :: ps from hps) hopen with rfl | hfull
    · simpa [Piece.written, hopen] using hwritten
    · exact hpre.eq_of_length (by omega)

/-! ## All lines -/

/-- The text of a line has three times as many bytes as the bound at most, and there is one that has.  The first
line of a text has two more at most. -/
theorem measured_pieces (hpos : 1 ≤ maxLine) (hword : maxLine + 1 < UInt64.size) :
    (∀ chunks, ∀ p ∈ pieces maxLine chunks, Measured maxLine p) ∧
    (∀ chunks s p, chunks.flatten = encode s → (pieces maxLine chunks).head? = some p →
      p.text.utf8ByteSize ≤ maxLine + 2) ∧
    ∃ chunks, ∃ p ∈ pieces maxLine chunks, p.text.utf8ByteSize = 3 * maxLine := by
  have hmeasured : ∀ chunks, ∀ p ∈ pieces maxLine chunks, Measured maxLine p := fun chunks p hp =>
    ((conserved_pieces hpos hword chunks).fits p hp).measured
  refine ⟨hmeasured, ?_, ?_⟩
  · intro chunks s p hs hp
    exact (hmeasured chunks p (List.mem_of_head? hp)).size_le_of_isPrefix (hs ▸ bytes_isPrefix hpos hword hp)
  · have hline : lineFeed ∉ List.replicate maxLine noise := by simp [noise, lineFeed]
    obtain ⟨p, hp, hbytes⟩ := exists_mem_pieces hpos hword hline List.length_replicate
    exact ⟨_, p, hp, size_noise hbytes⟩

theorem measured_pieces_three : 1 ≤ 3 ∧ 3 + 1 < UInt64.size ∧
    (∀ chunks, ∀ p ∈ pieces 3 chunks, Measured 3 p) ∧
    (∀ chunks s p, chunks.flatten = encode s → (pieces 3 chunks).head? = some p → p.text.utf8ByteSize ≤ 3 + 2) ∧
    ∃ chunks, ∃ p ∈ pieces 3 chunks, p.text.utf8ByteSize = 3 * 3 := by
  have hpos : 1 ≤ 3 := by decide
  have hword : 3 + 1 < UInt64.size := by decide
  exact ⟨hpos, hword, measured_pieces hpos hword⟩

/-- A text of four bytes is cut within its last character; what stands for the first byte of that has three. -/
theorem size_straddled : (pieces 3 [encode "aaé"]).map Piece.text = ["aa\uFFFD", "\uFFFD"] ∧
    "aa\uFFFD".utf8ByteSize = 5 ∧
    ((Session.new "s" "p").append 3 ⟨.stdout, "aa\uFFFD"⟩).2.logs = #[Session.marker] := by
  decide +kernel

end Flowline.Simulation.Lines
