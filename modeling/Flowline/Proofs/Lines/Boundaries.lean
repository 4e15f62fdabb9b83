import Flowline.Proofs.Lines.Pieces
import Flowline.Proofs.Text
import Mathlib.Data.List.Infix

/-!
# Boundaries of chunks

A line that is full when its chunk ends is handed on before it is known that a line feed comes next, which then
ends an empty line.  `cutLate` goes over the whole output byte by byte and asks where chunks end only there:
`piecesFrom_eq_cutLate`.  Hence output in different chunks comes to the same lines, and to the same texts,
exactly if the chunks have the same boundaries before the line feeds of full lines, and putting the empty lines
back makes up for any difference (`compared_pieces`).
-/

namespace Flowline.Simulation.Lines

variable {maxLine : Nat} {buffer chunk line rest seen : List UInt8} {chunks : List (List UInt8)}

/-! ## Where chunks and lines end -/

/-- Whether some output is made up of the first of the chunks. -/
def endsChunk (chunks : List (List UInt8)) (output : List UInt8) : Bool :=
  chunks.inits.any fun before => before.flatten == output

theorem endsChunk_iff {output : List UInt8} :
    endsChunk chunks output = true ↔ ∃ before after, chunks = before ++ after ∧ before.flatten = output := by
  simp only [endsChunk, List.any_eq_true, List.mem_inits, beq_iff_eq]
  constructor
  · rintro ⟨before, ⟨after, rfl⟩, rfl⟩
    exact ⟨before, after, rfl, rfl⟩
  · rintro ⟨before, after, rfl, rfl⟩
    exact ⟨before, List.prefix_append before after, rfl⟩

/-- Within a chunk none ends. -/
theorem endsChunk_within {before after : List (List UInt8)} {p q : List UInt8} (hp : p ≠ []) (hq : q ≠ []) :
    endsChunk (before ++ (p ++ q) :: after) (before.flatten ++ p) = false := by
  rw [Bool.eq_false_iff, ne_eq, endsChunk_iff]
  rintro ⟨first, others, hsplit, hflatten⟩
  rcases List.append_eq_append_iff.mp hsplit with ⟨more, rfl, htail⟩ | ⟨more, rfl, -⟩
  · rw [List.flatten_append, List.append_right_inj] at hflatten
    cases more with
    | nil => exact hp hflatten.symm
    | cons chunk more =>
      obtain ⟨rfl, -⟩ := List.cons.inj htail
      have hlength := congrArg List.length hflatten
      simp only [List.flatten_cons, List.length_append] at hlength
      exact hq (List.length_eq_zero_iff.mp (by omega))
  · have hlength := congrArg List.length hflatten
    simp only [List.flatten_append, List.length_append] at hlength
    exact hp (List.length_eq_zero_iff.mp (by omega))

/-- The number of bytes after the last line feed. -/
def column (output : List UInt8) : Nat := (output.reverse.takeWhile (· ≠ lineFeed)).length

theorem column_concat (output : List UInt8) (b : UInt8) :
    column (output ++ [b]) = if b = lineFeed then 0 else column output + 1 := by
  rw [column, List.reverse_append, List.reverse_singleton, List.singleton_append, List.takeWhile_cons]
  by_cases hb : b = lineFeed <;> simp [hb, column]

/-- Output that ends where a line has just been filled up to the bound, for the first time or again. -/
def IsFull (maxLine : Nat) (output : List UInt8) : Prop := 0 < column output ∧ maxLine ∣ column output

/-- Of so many bytes of a line, those are held back that come after the last full piece; a piece is not cut
before another byte comes. -/
structure Holds (maxLine held column : Nat) : Prop where
  le : held ≤ maxLine
  rest : ∃ k, column = k * maxLine + held
  pos : 0 < column → 0 < held

theorem holds_zero (maxLine : Nat) : Holds maxLine 0 0 := ⟨Nat.zero_le _, ⟨0, by simp⟩, id⟩

namespace Holds

variable {held column : Nat} (h : Holds maxLine held column)
include h

theorem succ (hne : held ≠ maxLine) : Holds maxLine (held + 1) (column + 1) := by
  obtain ⟨k, hk⟩ := h.rest
  have hle := h.le
  exact ⟨by omega, ⟨k, by omega⟩, fun _ => Nat.succ_pos held⟩

theorem one (hpos : 0 < maxLine) (hfull : held = maxLine) : Holds maxLine 1 (column + 1) := by
  obtain ⟨k, hk⟩ := h.rest
  exact ⟨hpos, ⟨k + 1, by rw [hk, hfull, Nat.succ_mul]⟩, fun _ => Nat.one_pos⟩

theorem eq_iff (hpos : 0 < maxLine) : held = maxLine ↔ 0 < column ∧ maxLine ∣ column := by
  obtain ⟨k, hk⟩ := h.rest
  constructor
  · intro hfull
    refine ⟨by omega, k + 1, ?_⟩
    rw [hk, hfull, Nat.mul_comm, Nat.mul_succ]
  · rintro ⟨hcolumn, hdvd⟩
    have hheld : maxLine ∣ held := (Nat.dvd_add_right (Nat.dvd_mul_left maxLine k)).mp (hk ▸ hdvd)
    exact Nat.le_antisymm h.le (Nat.le_of_dvd (h.pos hcolumn) hheld)

end Holds

/-! ## Cutting late -/

/-- The pieces of what comes after the output in `seen`, of which the bytes in the buffer are held back; `ends`
says where chunks end.  A full line is cut only when another byte comes, and whether a chunk has ended there
counts only if that is a line feed. -/
def cutLate (maxLine : Nat) (ends : List UInt8 → Bool) : List UInt8 → List UInt8 → List UInt8 → List Piece
  | _, buffer, [] => flush buffer
  | seen, buffer, b :: rest =>
    if b = lineFeed then
      (if buffer.length = maxLine ∧ ends seen = true then [⟨buffer, false⟩, ⟨[], true⟩]
        else [⟨buffer, true⟩]) ++ cutLate maxLine ends (seen ++ [b]) [] rest
    else if buffer.length = maxLine then ⟨buffer, false⟩ :: cutLate maxLine ends (seen ++ [b]) [b] rest
    else cutLate maxLine ends (seen ++ [b]) (buffer ++ [b]) rest

variable {ends others : List UInt8 → Bool}

theorem cutLate_of_ne {b : UInt8} (hb : b ≠ lineFeed) : cutLate maxLine ends seen buffer (b :: rest) =
    if buffer.length = maxLine then ⟨buffer, false⟩ :: cutLate maxLine ends (seen ++ [b]) [b] rest
    else cutLate maxLine ends (seen ++ [b]) (buffer ++ [b]) rest := by
  rw [cutLate, if_neg hb]

theorem cutLate_line (hline : lineFeed ∉ line) (hfits : (buffer ++ line).length ≤ maxLine)
    (seen rest : List UInt8) : cutLate maxLine ends seen buffer (line ++ rest) =
      cutLate maxLine ends (seen ++ line) (buffer ++ line) rest := by
  induction line generalizing seen buffer with
  | nil => simp
  | cons b line ih =>
    have hb : b ≠ lineFeed := fun h => hline (h ▸ List.mem_cons_self)
    have hroom : buffer.length ≠ maxLine := by
      simp only [List.length_append, List.length_cons] at hfits
      omega
    have htail : cutLate maxLine ends (seen ++ [b]) (buffer ++ [b]) (line ++ rest) =
        cutLate maxLine ends (seen ++ [b] ++ line) (buffer ++ [b] ++ line) rest :=
      ih (fun h => hline (List.mem_cons_of_mem b h)) (by simpa using hfits) (seen ++ [b])
    simpa only [List.cons_append, cutLate, if_neg hb, if_neg hroom, List.append_assoc,
      List.singleton_append, List.nil_append] using htail

theorem cutLate_ended (hends : buffer.length = maxLine → ends seen = false) (rest : List UInt8) :
    cutLate maxLine ends seen buffer (lineFeed :: rest) =
      ⟨buffer, true⟩ :: cutLate maxLine ends (seen ++ [lineFeed]) [] rest := by
  have hwhole : ¬ (buffer.length = maxLine ∧ ends seen = true) := fun h => by
    simp [hends h.1] at h
  rw [cutLate, if_pos rfl, if_neg hwhole, List.singleton_append]

/-- It makes no difference when a full line is cut, unless a line feed comes next in the chunk. -/
theorem cutLate_full (hpos : 0 < maxLine) (hfull : buffer.length = maxLine)
    (hends : rest.head? = some lineFeed → ends seen = true) :
    cutLate maxLine ends seen buffer rest = ⟨buffer, false⟩ :: cutLate maxLine ends seen [] rest := by
  have hzero : 0 ≠ maxLine := Nat.ne_of_lt hpos
  cases rest with
  | nil =>
    have hne : buffer ≠ [] := fun h => hzero (by rw [← hfull, h, List.length_nil])
    simp [cutLate, flush, hne]
  | cons b rest =>
    by_cases hb : b = lineFeed
    · have hseen := hends (congrArg some hb)
      simp [cutLate, hb, hfull, hseen, hzero]
    · simp [cutLate, hb, hfull, hzero]

/-- A chunk, if chunks end after it and not within it. -/
theorem Fed.cutLate {ps : List Piece} {left : List UInt8} (h : Fed maxLine buffer chunk ps left)
    (hroom : buffer.length < maxLine) {seen : List UInt8}
    (hwithin : ∀ p q, chunk = p ++ q → p ≠ [] → q ≠ [] → ends (seen ++ p) = false)
    (hend : ends (seen ++ chunk) = true) (tail : List UInt8) :
    Lines.cutLate maxLine ends seen buffer (chunk ++ tail) =
      ps ++ Lines.cutLate maxLine ends (seen ++ chunk) left tail := by
  induction h generalizing seen with
  | @ended buffer line rest ps left hline hfits _ ih =>
    have hnotEnd : (buffer ++ line).length = maxLine → ends (seen ++ line) = false := by
      intro hfull
      rw [List.length_append] at hfull
      exact hwithin line _ rfl (fun h => by simp [h] at hfull; omega) (List.cons_ne_nil _ _)
    have hrest : Lines.cutLate maxLine ends (seen ++ line ++ [lineFeed]) [] (rest ++ tail) =
        ps ++ Lines.cutLate maxLine ends (seen ++ line ++ [lineFeed] ++ rest) left tail := by
      refine ih (Nat.zero_lt_of_lt hroom) (fun p q hpq _ hq => ?_) (by simpa using hend)
      have h := hwithin (line ++ lineFeed :: p) q (by simp [hpq]) (by simp) hq
      simpa using h
    rw [List.append_assoc, cutLate_line hline hfits, List.cons_append, cutLate_ended hnotEnd, hrest]
    simp
  | @full buffer line rest ps left hline hfull hnext _ ih =>
    have hne : line ≠ [] := fun h => by simp [h] at hfull; omega
    have hrest : Lines.cutLate maxLine ends (seen ++ line) [] (rest ++ tail) =
        ps ++ Lines.cutLate maxLine ends (seen ++ line ++ rest) left tail := by
      refine ih (Nat.zero_lt_of_lt hroom) (fun p q hpq hp hq => ?_) (by simpa using hend)
      have h := hwithin (line ++ p) q (by simp [hpq]) (by simp [hne]) hq
      simpa using h
    have hcut : (rest ++ tail).head? = some lineFeed → ends (seen ++ line) = true := by
      intro hhead
      cases rest with
      | nil => simpa using hend
      | cons b rest => exact absurd hhead hnext
    rw [List.append_assoc, cutLate_line hline (Nat.le_of_eq hfull), cutLate_full (Nat.zero_lt_of_lt hroom) hfull hcut,
      hrest]
    simp
  | @opened buffer line hline hshort => exact cutLate_line hline (Nat.le_of_lt hshort) seen tail

theorem piecesFrom_eq_cutLate (hword : maxLine + 1 < UInt64.size) (hroom : buffer.length < maxLine)
    (hbuffer : lineFeed ∉ buffer) (before : List (List UInt8)) : piecesFrom maxLine buffer chunks =
      cutLate maxLine (endsChunk (before ++ chunks)) before.flatten buffer chunks.flatten := by
  induction chunks generalizing buffer before with
  | nil => rfl
  | cons chunk chunks ih =>
    have hfed := fed_feed hword hroom (Nat.le_succ chunk.length)
    have hsplits := hfed.splits hbuffer
    have hwithin : ∀ p q, chunk = p ++ q → p ≠ [] → q ≠ [] →
        endsChunk (before ++ chunk :: chunks) (before.flatten ++ p) = false := by
      rintro p q rfl hp hq
      exact endsChunk_within hp hq
    have hend : endsChunk (before ++ chunk :: chunks) (before.flatten ++ chunk) = true :=
      endsChunk_iff.mpr ⟨before ++ [chunk], chunks, by simp, by simp⟩
    have hothers := ih hsplits.room hsplits.oneLine (before ++ [chunk])
    rw [List.flatten_cons, hfed.cutLate hroom hwithin hend]
    simp only [piecesFrom, feedAll] at hothers ⊢
    rw [List.append_assoc, hothers]
    simp

/-! ## Comparing -/

/-- Where lines are full before a line feed, the same chunks end. -/
def Agree (maxLine : Nat) (ends others : List UInt8 → Bool) (seen rest : List UInt8) : Prop :=
  ∀ p s, rest = p ++ lineFeed :: s → IsFull maxLine (seen ++ p) → ends (seen ++ p) = others (seen ++ p)

theorem agree_nil (seen : List UInt8) : Agree maxLine ends others seen [] := by
  intro p s h
  simp at h

theorem agree_cons {b : UInt8} : Agree maxLine ends others seen (b :: rest) ↔
    (b = lineFeed → IsFull maxLine seen → ends seen = others seen) ∧
      Agree maxLine ends others (seen ++ [b]) rest := by
  constructor
  · intro h
    refine ⟨fun hb hfull => ?_, fun p s hrest hfull => ?_⟩
    · simpa using h [] rest (by rw [hb, List.nil_append]) (by simpa using hfull)
    · simpa using h (b :: p) s (by rw [hrest, List.cons_append]) (by simpa using hfull)
  · rintro ⟨hfirst, hothers⟩ p s hrest hfull
    cases p with
    | nil =>
      obtain ⟨rfl, -⟩ := List.cons.inj hrest
      rw [List.append_nil] at hfull ⊢
      exact hfirst rfl hfull
    | cons c p =>
      obtain ⟨rfl, htail⟩ := List.cons.inj hrest
      simpa using hothers p s htail (by simpa using hfull)

/-- What is made of the pieces shows whether a full line was cut before its line feed. -/
def Shows {α : Type} (maxLine : Nat) (f : Piece → α) : Prop :=
  ∀ (ends others : List UInt8 → Bool) (seen line rest : List UInt8), line.length = maxLine →
    (⟨line, false⟩ :: ⟨[], true⟩ :: cutLate maxLine ends seen [] rest).map f ≠
      (⟨line, true⟩ :: cutLate maxLine others seen [] rest).map f

theorem map_cutLate_eq_iff {α : Type} {f : Piece → α} (hf : Shows maxLine f) (hpos : 0 < maxLine)
    (h : Holds maxLine buffer.length (column seen)) :
    (cutLate maxLine ends seen buffer rest).map f = (cutLate maxLine others seen buffer rest).map f ↔
      Agree maxLine ends others seen rest := by
  induction rest generalizing seen buffer with
  | nil => exact iff_of_true rfl (agree_nil seen)
  | cons b rest ih =>
    rw [agree_cons]
    by_cases hb : b = lineFeed
    · have hnext : Holds maxLine ([] : List UInt8).length (column (seen ++ [b])) := by
        rw [column_concat, if_pos hb]
        exact holds_zero maxLine
      rw [← ih hnext]
      simp only [cutLate, hb, forall_const, IsFull, ← h.eq_iff hpos]
      by_cases hfull : buffer.length = maxLine
      · have hcut := hf ends others (seen ++ [lineFeed]) buffer rest hfull
        have hcut' := hf others ends (seen ++ [lineFeed]) buffer rest hfull
        cases hends : ends seen <;> cases hothers : others seen
        · simp [hfull]
        · simpa [hfull] using hcut'.symm
        · simpa [hfull] using hcut
        · simp [hfull]
      · simp [hfull]
    · rw [and_iff_right fun h => absurd h hb, cutLate_of_ne hb, cutLate_of_ne hb]
      have hcolumn : column (seen ++ [b]) = column seen + 1 := by rw [column_concat, if_neg hb]
      by_cases hfull : buffer.length = maxLine
      · have hnext : Holds maxLine [b].length (column (seen ++ [b])) := hcolumn ▸ h.one hpos hfull
        rw [if_pos hfull, if_pos hfull, List.map_cons, List.map_cons, List.cons.injEq, ih hnext]
        exact and_iff_right rfl
      · have hnext : Holds maxLine (buffer ++ [b]).length (column (seen ++ [b])) := by
          rw [hcolumn, List.length_append]
          exact h.succ hfull
        rw [if_neg hfull, if_neg hfull, ih hnext]

/-- The pieces themselves say what ended them. -/
theorem shows_id (maxLine : Nat) : Shows maxLine (id : Piece → Piece) := by
  intro ends others seen line rest _ h
  rw [List.map_id, List.map_id] at h
  simp at h

/-! ## The texts of the lines -/

/-- Only a carriage return is no text. -/
theorem text_ne_empty {p : Piece} (h : 2 ≤ p.bytes.length) : p.text ≠ "" := by
  have hne : dropCarriageReturn p.bytes ≠ [] := by
    rw [← List.length_pos_iff]
    unfold dropCarriageReturn
    split_ifs
    · rw [List.length_dropLast]
      omega
    · omega
  exact Text.Utf8.decode_ne_empty hne

/-- The texts of the lines that are to come are not the same with an empty one in front: that would be the
first, and then the second, and so on to the end of the output. -/
theorem texts_cutLate_ne (hwide : 2 ≤ maxLine) (ends others : List UInt8 → Bool) (seen buffer rest : List UInt8) :
    "" :: (cutLate maxLine ends seen buffer rest).map Piece.text ≠
      (cutLate maxLine others seen buffer rest).map Piece.text := by
  induction rest generalizing seen buffer with
  | nil => exact fun h => by simpa [cutLate] using congrArg List.length h
  | cons b rest ih =>
    by_cases hfull : buffer.length = maxLine
    · have htext (ended : Bool) : (⟨buffer, ended⟩ : Piece).text ≠ "" := text_ne_empty (hfull ▸ hwide)
      intro h
      by_cases hb : b = lineFeed
      · rw [hb, cutLate, if_pos rfl, cutLate, if_pos rfl] at h
        split_ifs at h <;> exact htext _ (List.cons.inj h).1.symm
      · rw [cutLate_of_ne hb, cutLate_of_ne hb, if_pos hfull, if_pos hfull] at h
        exact htext _ (List.cons.inj h).1.symm
    · by_cases hb : b = lineFeed
      · intro h
        have hwhole (ends : List UInt8 → Bool) : cutLate maxLine ends seen buffer (b :: rest) =
            ⟨buffer, true⟩ :: cutLate maxLine ends (seen ++ [b]) [] rest := by
          rw [hb]
          exact cutLate_ended (fun h => absurd h hfull) rest
        rw [hwhole, hwhole, List.map_cons, List.map_cons] at h
        obtain ⟨hempty, htail⟩ := List.cons.inj h
        rw [← hempty] at htail
        exact ih _ _ htail
      · rw [cutLate_of_ne hb, cutLate_of_ne hb, if_neg hfull, if_neg hfull]
        exact ih _ _

theorem shows_text (hwide : 2 ≤ maxLine) : Shows maxLine Piece.text := by
  intro ends others seen line rest _ h
  exact texts_cutLate_ne hwide ends others seen [] rest (List.cons.inj h).2

/-! ## Putting empty lines back -/

/-- The pieces with the ends of full lines put back to them. -/
def rejoin : List Piece → List Piece
  | ⟨bytes, false⟩ :: ⟨[], true⟩ :: ps => ⟨bytes, true⟩ :: rejoin ps
  | p :: ps => p :: rejoin ps
  | [] => []

theorem rejoin_ended (bytes : List UInt8) (ps : List Piece) :
    rejoin (⟨bytes, true⟩ :: ps) = ⟨bytes, true⟩ :: rejoin ps := rfl

theorem rejoin_of_head? {p : Piece} {ps : List Piece} (h : ps.head? ≠ some ⟨[], true⟩) :
    rejoin (p :: ps) = p :: rejoin ps := by
  match p, ps, h with
  | ⟨_, true⟩, ps, _ => rfl
  | ⟨_, false⟩, [], _ => rfl
  | ⟨_, false⟩, ⟨[], false⟩ :: ps, _ => rfl
  | ⟨_, false⟩, ⟨b :: bytes, _⟩ :: ps, _ => rfl
  | ⟨_, false⟩, ⟨[], true⟩ :: ps, h => exact absurd rfl h

/-- The line of which some bytes are held back is not empty. -/
theorem head?_cutLate (hne : buffer ≠ []) :
    (cutLate maxLine ends seen buffer rest).head? ≠ some ⟨[], true⟩ := by
  induction rest generalizing seen buffer with
  | nil => simp [cutLate, flush, hne]
  | cons b rest ih =>
    by_cases hb : b = lineFeed
    · rw [cutLate, if_pos hb]
      split_ifs <;> simp [hne]
    · rw [cutLate_of_ne hb]
      split_ifs
      · simp
      · exact ih (by simp)

theorem rejoin_cutLate (ends : List UInt8 → Bool) (seen buffer rest : List UInt8) :
    rejoin (cutLate maxLine ends seen buffer rest) = cutLate maxLine (fun _ => false) seen buffer rest := by
  induction rest generalizing seen buffer with
  | nil =>
    unfold cutLate flush
    split_ifs <;> rfl
  | cons b rest ih =>
    by_cases hb : b = lineFeed
    · subst hb
      have hwhole : cutLate maxLine (fun _ => false) seen buffer (lineFeed :: rest) =
          ⟨buffer, true⟩ :: cutLate maxLine (fun _ => false) (seen ++ [lineFeed]) [] rest :=
        cutLate_ended (fun _ => rfl) rest
      rw [hwhole, ← ih, cutLate, if_pos rfl]
      split_ifs
      · rfl
      · exact rejoin_ended _ _
    · rw [cutLate_of_ne hb, cutLate_of_ne hb]
      split_ifs
      · rw [rejoin_of_head? (head?_cutLate (List.cons_ne_nil b [])), ih]
      · exact ih _ _

/-! ## Different chunks -/

/-- The lines of the same output in some chunks and in others. -/
structure Compared (maxLine : Nat) (chunks others : List (List UInt8)) : Prop where
  /-- They are the same exactly if before every line feed of a full line either both have a boundary or
  neither has; -/
  pieces_eq_iff : pieces maxLine chunks = pieces maxLine others ↔
    ∀ p s, chunks.flatten = p ++ lineFeed :: s → IsFull maxLine p → endsChunk chunks p = endsChunk others p
  /-- their texts show it, unless a full line can be nothing but a carriage return. -/
  texts_eq_iff (hwide : 2 ≤ maxLine) :
    (pieces maxLine chunks).map Piece.text = (pieces maxLine others).map Piece.text ↔
      pieces maxLine chunks = pieces maxLine others
  /-- They only differ in empty lines after full ones, for the line feeds of these. -/
  rejoin_eq : rejoin (pieces maxLine chunks) = rejoin (pieces maxLine others)

theorem compared_pieces {others : List (List UInt8)} (hpos : 1 ≤ maxLine) (hword : maxLine + 1 < UInt64.size)
    (hsame : chunks.flatten = others.flatten) : Compared maxLine chunks others := by
  have hroom : ([] : List UInt8).length < maxLine := hpos
  have hlate (chunks : List (List UInt8)) :
      pieces maxLine chunks = cutLate maxLine (endsChunk chunks) [] [] chunks.flatten :=
    piecesFrom_eq_cutLate hword hroom List.not_mem_nil []
  have hstart : Holds maxLine ([] : List UInt8).length (column []) := holds_zero maxLine
  have hagree {α : Type} {f : Piece → α} (hf : Shows maxLine f) :
      (pieces maxLine chunks).map f = (pieces maxLine others).map f ↔
        Agree maxLine (endsChunk chunks) (endsChunk others) [] chunks.flatten := by
    rw [hlate chunks, hlate others, ← hsame]
    exact map_cutLate_eq_iff hf hpos hstart
  have hpieces := hagree (shows_id maxLine)
  rw [List.map_id, List.map_id] at hpieces
  refine ⟨hpieces, fun hwide => (hagree (shows_text hwide)).trans hpieces.symm, ?_⟩
  rw [hlate chunks, hlate others, ← hsame, rejoin_cutLate, rejoin_cutLate]

/-- A line and its line feed in one chunk. -/
def together : List (List UInt8) := [[97, 98, 99, 100, 10]]

/-- The same, with the line feed in a chunk of its own. -/
def apart : List (List UInt8) := [[97, 98, 99, 100], [10]]

theorem compared_pieces_apart :
    1 ≤ 4 ∧ 4 + 1 < UInt64.size ∧ together.flatten = apart.flatten ∧ Compared 4 together apart := by
  have hpos : 1 ≤ 4 := by decide
  have hword : 4 + 1 < UInt64.size := by decide
  have hsame : together.flatten = apart.flatten := by decide
  exact ⟨hpos, hword, hsame, compared_pieces hpos hword hsame⟩

/-- A line as long as the bound is followed by an empty one if its line feed comes in another chunk. -/
theorem boundary_shows : together.flatten = apart.flatten ∧
    (pieces 4 together).map Piece.text = ["abcd"] ∧ (pieces 4 apart).map Piece.text = ["abcd", ""] := by
  decide +kernel

end Flowline.Simulation.Lines
