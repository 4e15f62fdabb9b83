import Flowline.Proofs.Lines.Looks
import Mathlib.Data.List.Basic

/-!
# Pieces of the output

`Fed` says what a chunk is cut into, with a rule for each outcome of a look.  By induction on the rules, the
bytes of the open line and of the chunk are those of the pieces, with a line feed after each that was ended by
one, and of the line that is open then; and only pieces of the length of the bound are ended by none
(`Fed.splits`).  Over all chunks that makes `conserved_pieces`.
-/

namespace Flowline.Simulation.Lines

variable {maxLine fuel : Nat} {buffer chunk : List UInt8}

/-! ## What a chunk is cut into -/

/-- After the bytes in a buffer, a chunk is cut into some pieces and leaves a line open. -/
inductive Fed (maxLine : Nat) : List UInt8 → List UInt8 → List Piece → List UInt8 → Prop
  | ended {buffer line rest : List UInt8} {ps : List Piece} {left : List UInt8} (hline : lineFeed ∉ line)
    (hfits : (buffer ++ line).length ≤ maxLine) (hrest : Fed maxLine [] rest ps left) :
    Fed maxLine buffer (line ++ lineFeed :: rest) (⟨buffer ++ line, true⟩ :: ps) left
  | full {buffer line rest : List UInt8} {ps : List Piece} {left : List UInt8} (hline : lineFeed ∉ line)
    (hfull : (buffer ++ line).length = maxLine) (hnext : rest.head? ≠ some lineFeed)
    (hrest : Fed maxLine [] rest ps left) :
    Fed maxLine buffer (line ++ rest) (⟨buffer ++ line, false⟩ :: ps) left
  | opened {buffer line : List UInt8} (hline : lineFeed ∉ line) (hshort : (buffer ++ line).length < maxLine) :
    Fed maxLine buffer line [] (buffer ++ line)

theorem fed_nil (hroom : buffer.length < maxLine) : Fed maxLine buffer [] [] buffer := by
  have h : Fed maxLine buffer [] [] (buffer ++ []) := .opened List.not_mem_nil (by simpa using hroom)
  rwa [List.append_nil] at h

theorem fed_feed (hword : maxLine + 1 < UInt64.size) (hroom : buffer.length < maxLine)
    (hfuel : chunk.length ≤ fuel) :
    Fed maxLine buffer chunk (feed maxLine fuel buffer chunk).1 (feed maxLine fuel buffer chunk).2 := by
  induction fuel generalizing buffer chunk with
  | zero =>
    obtain rfl := List.length_eq_zero_iff.mp (Nat.le_zero.mp hfuel)
    rw [feed_nil]
    exact fed_nil hroom
  | succ fuel ih =>
    by_cases hne : chunk = []
    · rw [hne, feed_nil]
      exact fed_nil hroom
    · have hlooked := looked_of_word hword hroom chunk
      have hrest := hlooked.length_rest_lt hroom hne
      have hbuffer := hlooked.length_buffer_lt hroom
      generalize hl : look maxLine buffer chunk = l at hlooked hrest hbuffer
      have htail : Fed maxLine l.buffer l.rest (feed maxLine fuel l.buffer l.rest).1
          (feed maxLine fuel l.buffer l.rest).2 := ih hbuffer (by omega)
      rw [feed_succ hl hne]
      cases hlooked with
      | ended hline hfits => exact .ended hline hfits htail
      | full hline hfull hnext => exact .full hline hfull hnext htail
      | opened hline hshort =>
        rw [feed_nil]
        exact .opened hline hshort

/-! ## No byte is lost -/

/-- The bytes of a piece, with the line feed that ended it. -/
def Piece.written (p : Piece) : List UInt8 := p.bytes ++ if p.ended then [lineFeed] else []

/-- Bytes of one line, and no more than the bound. -/
structure Fits (maxLine : Nat) (bytes : List UInt8) : Prop where
  length_le : bytes.length ≤ maxLine
  oneLine : lineFeed ∉ bytes

/-- The bytes that follow those in a buffer are cut into some pieces and leave a line open. -/
structure Splits (maxLine : Nat) (buffer bytes : List UInt8) (ps : List Piece) (left : List UInt8) : Prop where
  written : ps.flatMap Piece.written ++ left = buffer ++ bytes
  fits : ∀ p ∈ ps, Fits maxLine p.bytes
  full : ∀ p ∈ ps, p.ended = false → p.bytes.length = maxLine
  /-- There is room for the open line, which is one. -/
  room : left.length < maxLine
  oneLine : lineFeed ∉ left

theorem Fed.splits {ps : List Piece} {left : List UInt8} (h : Fed maxLine buffer chunk ps left)
    (hbuffer : lineFeed ∉ buffer) : Splits maxLine buffer chunk ps left := by
  induction h with
  | ended hline hfits _ ih =>
    have hrest := ih List.not_mem_nil
    refine ⟨?_, ?_, ?_, hrest.room, hrest.oneLine⟩
    · simp [Piece.written, hrest.written]
    · exact List.forall_mem_cons.mpr ⟨⟨hfits, List.not_mem_append hbuffer hline⟩, hrest.fits⟩
    · exact List.forall_mem_cons.mpr ⟨fun h => by simp at h, hrest.full⟩
  | full hline hfull _ _ ih =>
    have hrest := ih List.not_mem_nil
    refine ⟨?_, ?_, ?_, hrest.room, hrest.oneLine⟩
    · simp [Piece.written, hrest.written]
    · exact List.forall_mem_cons.mpr ⟨⟨Nat.le_of_eq hfull, List.not_mem_append hbuffer hline⟩, hrest.fits⟩
    · exact List.forall_mem_cons.mpr ⟨fun _ => hfull, hrest.full⟩
  | opened hline hshort => exact ⟨rfl, by simp, by simp, hshort, List.not_mem_append hbuffer hline⟩

theorem splits_feedAll (hword : maxLine + 1 < UInt64.size) (hroom : buffer.length < maxLine)
    (hbuffer : lineFeed ∉ buffer) (chunks : List (List UInt8)) :
    Splits maxLine buffer chunks.flatten (feedAll maxLine buffer chunks).1 (feedAll maxLine buffer chunks).2 := by
  induction chunks generalizing buffer with
  | nil => exact ⟨by simp [feedAll], by simp [feedAll], by simp [feedAll], hroom, hbuffer⟩
  | cons chunk chunks ih =>
    have hfirst := (fed_feed hword hroom (Nat.le_succ chunk.length)).splits hbuffer
    have hothers := ih hfirst.room hfirst.oneLine
    refine ⟨?_, List.forall_mem_append.mpr ⟨hfirst.fits, hothers.fits⟩,
      List.forall_mem_append.mpr ⟨hfirst.full, hothers.full⟩, hothers.room, hothers.oneLine⟩
    simp only [feedAll, List.flatMap_append, List.append_assoc, hothers.written, List.flatten_cons]
    rw [← List.append_assoc, hfirst.written, List.append_assoc]

/-- Output in pieces that has lost nothing and gained nothing. -/
structure Conserved (maxLine : Nat) (output : List UInt8) (ps : List Piece) : Prop where
  /-- The pieces are the output, with a line feed put back after each that was ended by one. -/
  written : ps.flatMap Piece.written = output
  fits : ∀ p ∈ ps, Fits maxLine p.bytes
  /-- A piece that no line feed has ended is the last one or as long as the bound. -/
  last_or_full {before after : List Piece} {p : Piece} (h : ps = before ++ p :: after)
    (hended : p.ended = false) : after = [] ∨ p.bytes.length = maxLine

/-- At the end of the output the open line is handed on, if it has any bytes. -/
theorem Splits.conserved {output left : List UInt8} {ps : List Piece} (h : Splits maxLine [] output ps left) :
    Conserved maxLine output (ps ++ flush left) := by
  by_cases hleft : left = []
  · subst hleft
    have hflush : flush ([] : List UInt8) = [] := rfl
    rw [hflush, List.append_nil]
    refine ⟨by simpa using h.written, h.fits, ?_⟩
    intro before after p hps hended
    exact Or.inr (h.full p (by simp [hps]) hended)
  · have hflush : flush left = [⟨left, false⟩] := by simp [flush, hleft]
    rw [hflush]
    refine ⟨by simpa [Piece.written] using h.written, ?_, ?_⟩
    · exact List.forall_mem_append.mpr
        ⟨h.fits, List.forall_mem_singleton.mpr ⟨Nat.le_of_lt h.room, h.oneLine⟩⟩
    · intro before after p hps hended
      rcases List.eq_nil_or_concat after with hlast | ⟨after, q, rfl⟩
      · exact Or.inl hlast
      · -- the open line stands at the end, so that `p` is among the pieces before it
        rw [List.concat_eq_append, ← List.cons_append, ← List.append_assoc] at hps
        have hinit : ps = before ++ p :: after := (List.append_inj' hps rfl).1
        exact Or.inr (h.full p (by simp [hinit]) hended)

theorem conserved_pieces (hpos : 1 ≤ maxLine) (hword : maxLine + 1 < UInt64.size)
    (chunks : List (List UInt8)) : Conserved maxLine chunks.flatten (pieces maxLine chunks) := by
  have hroom : ([] : List UInt8).length < maxLine := hpos
  exact (splits_feedAll hword hroom List.not_mem_nil chunks).conserved

/-- The line feed of the first line comes in a chunk after its last byte, and that of the second never. -/
theorem conserved_pieces_four : 1 ≤ 4 ∧ 4 + 1 < UInt64.size ∧
    Conserved 4 [97, 98, 99, 100, 101, 10, 97, 98] (pieces 4 [[97, 98, 99], [100, 101], [10, 97], [98]]) := by
  have hpos : 1 ≤ 4 := by decide
  have hword : 4 + 1 < UInt64.size := by decide
  exact ⟨hpos, hword, conserved_pieces hpos hword [[97, 98, 99], [100, 101], [10, 97], [98]]⟩

end Flowline.Simulation.Lines
