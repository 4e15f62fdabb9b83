import Flowline.Simulation.Lines
import Mathlib.Logic.Function.Iterate
import Mathlib.Tactic.SplitIfs

/-!
# Looking at what has arrived

One look at a chunk finds the end of the line, cuts the line at the bound or leaves it open: `Looked` has a
rule for each, as long as the number of bytes that it looks at is a word.  The loop takes one look after the
other, and reads on when nothing is left of a chunk.  With every bound short of the largest word each look
uses up some bytes, so that the loop gets to the end of the output (`paced_loop`); with that one, looking at
one byte more than there is room for is looking at none.
-/

namespace Flowline.Simulation.Lines

variable {maxLine n fuel : Nat} {buffer bytes chunk : List UInt8} {chunks : List (List UInt8)}

/-! ## Line feeds -/

theorem cutFrom_eq_some {passed before after : List UInt8}
    (h : cutFrom n passed bytes = some (before, after)) :
    ∃ line, bytes = line ++ lineFeed :: after ∧ lineFeed ∉ line ∧ line.length < n ∧
      before = passed.reverse ++ line := by
  fun_induction cutFrom n passed bytes with
  | case1 => simp at h
  | case2 => simp at h
  | case3 n passed bytes =>
    obtain ⟨rfl, rfl⟩ := Prod.mk.inj (Option.some.inj h)
    exact ⟨[], rfl, List.not_mem_nil, Nat.succ_pos n, by simp⟩
  | case4 n passed b bytes hb ih =>
    obtain ⟨line, rfl, hline, hlength, rfl⟩ := ih h
    refine ⟨b :: line, rfl, ?_, by simpa using hlength, by simp⟩
    simp [hline, Ne.symm hb]

theorem cutFrom_eq_none {passed : List UInt8} (h : cutFrom n passed bytes = none) :
    lineFeed ∉ bytes.take n := by
  fun_induction cutFrom n passed bytes with
  | case1 => simp
  | case2 => simp
  | case3 => simp at h
  | case4 n passed b bytes hb ih => simp [ih h, Ne.symm hb]

/-! ## One look -/

/-- What a look at a chunk comes to. -/
inductive Looked (maxLine : Nat) (buffer : List UInt8) : List UInt8 → Look → Prop
  /-- A line feed ends the line, at the bound at the latest. -/
  | ended {line rest : List UInt8} (hline : lineFeed ∉ line) (hfits : (buffer ++ line).length ≤ maxLine) :
    Looked maxLine buffer (line ++ lineFeed :: rest) ⟨some ⟨buffer ++ line, true⟩, [], rest⟩
  /-- The line is cut at the bound; no line feed comes next in the chunk. -/
  | full {line rest : List UInt8} (hline : lineFeed ∉ line) (hfull : (buffer ++ line).length = maxLine)
    (hnext : rest.head? ≠ some lineFeed) :
    Looked maxLine buffer (line ++ rest) ⟨some ⟨buffer ++ line, false⟩, [], rest⟩
  /-- The chunk is used up before the bound. -/
  | opened {line : List UInt8} (hline : lineFeed ∉ line) (hshort : (buffer ++ line).length < maxLine) :
    Looked maxLine buffer line ⟨none, buffer ++ line, []⟩

theorem looked_look (hroom : buffer.length < maxLine) (hword : maxLine - buffer.length + 1 < UInt64.size)
    (chunk : List UInt8) : Looked maxLine buffer chunk (look maxLine buffer chunk) := by
  have hreach : reach maxLine buffer = maxLine - buffer.length + 1 := Nat.mod_eq_of_lt hword
  unfold look
  rw [hreach]
  cases hcut : cutAtLineFeed (maxLine - buffer.length + 1) chunk with
  | some found =>
    obtain ⟨before, after⟩ := found
    obtain ⟨line, rfl, hline, hlength, hbefore⟩ := cutFrom_eq_some hcut
    rw [List.reverse_nil, List.nil_append] at hbefore
    subst hbefore
    exact .ended hline (by rw [List.length_append]; omega)
  | none =>
    have hfree := cutFrom_eq_none hcut
    have hmin : min (maxLine - buffer.length + 1) (maxLine - buffer.length) = maxLine - buffer.length := by
      omega
    simp only [hmin]
    have hline : lineFeed ∉ chunk.take (maxLine - buffer.length) := by
      refine fun hmem => hfree (List.Sublist.mem hmem ?_)
      exact (List.take_prefix_take_left (Nat.le_succ _)).sublist
    split_ifs with hfull
    · have hlength : (buffer ++ chunk.take (maxLine - buffer.length)).length = maxLine := by
        rw [List.length_append, List.length_take] at hfull ⊢
        omega
      have hnext : (chunk.drop (maxLine - buffer.length)).head? ≠ some lineFeed := by
        -- it would be among the bytes that were looked at
        intro hhead
        rw [List.head?_drop] at hhead
        apply hfree
        rw [List.take_add_one, hhead]
        simp
      simpa using Looked.full hline hlength hnext
    · have hshort : chunk.length ≤ maxLine - buffer.length := by
        rw [List.length_append, List.length_take] at hfull
        omega
      rw [List.take_of_length_le hshort] at hline hfull ⊢
      rw [List.drop_of_length_le hshort]
      exact .opened hline (by omega)

/-- The bytes that a look uses up, at least one of a chunk. -/
theorem Looked.length_rest_lt {l : Look} (h : Looked maxLine buffer chunk l)
    (hroom : buffer.length < maxLine) (hne : chunk ≠ []) : l.rest.length < chunk.length := by
  cases h with
  | ended => simp; omega
  | full _ hfull _ =>
    rw [List.length_append] at hfull
    simp
    omega
  | opened => exact List.length_pos_iff.mpr hne

/-- Afterwards there is room again. -/
theorem Looked.length_buffer_lt {l : Look} (h : Looked maxLine buffer chunk l)
    (hroom : buffer.length < maxLine) : l.buffer.length < maxLine := by
  cases h with
  | ended => exact Nat.zero_lt_of_lt hroom
  | full => exact Nat.zero_lt_of_lt hroom
  | opened _ hshort => exact hshort

/-! ## All looks at what arrives -/

@[simp] theorem feed_nil : feed maxLine fuel buffer [] = ([], buffer) := by
  cases fuel <;> rfl

theorem feed_succ {l : Look} (hl : look maxLine buffer chunk = l) (hne : chunk ≠ []) :
    feed maxLine (fuel + 1) buffer chunk =
      (l.piece.toList ++ (feed maxLine fuel l.buffer l.rest).1, (feed maxLine fuel l.buffer l.rest).2) := by
  subst hl
  cases chunk with
  | nil => exact absurd rfl hne
  | cons b bytes => rfl

@[simp] theorem feedAll_nil_cons : feedAll maxLine buffer ([] :: chunks) = feedAll maxLine buffer chunks := by
  simp [feedAll]

section Words

variable (hword : maxLine + 1 < UInt64.size) (hroom : buffer.length < maxLine)
include hword hroom

theorem looked_of_word (chunk : List UInt8) : Looked maxLine buffer chunk (look maxLine buffer chunk) :=
  looked_look hroom (by omega) chunk

/-- As many looks as a chunk has bytes are enough. -/
theorem feed_congr {more : Nat} (hfuel : chunk.length ≤ fuel) (hmore : chunk.length ≤ more) :
    feed maxLine fuel buffer chunk = feed maxLine more buffer chunk := by
  induction fuel generalizing more buffer chunk with
  | zero =>
    obtain rfl := List.length_eq_zero_iff.mp (Nat.le_zero.mp hfuel)
    rw [feed_nil, feed_nil]
  | succ fuel ih =>
    by_cases hne : chunk = []
    · rw [hne, feed_nil, feed_nil]
    · have hpos := List.length_pos_iff.mpr hne
      obtain ⟨more, rfl⟩ : ∃ k, more = k + 1 := ⟨more - 1, by omega⟩
      have hlooked := looked_of_word hword hroom chunk
      have hrest := hlooked.length_rest_lt hroom hne
      have htail : feed maxLine fuel (look maxLine buffer chunk).buffer (look maxLine buffer chunk).rest =
          feed maxLine more (look maxLine buffer chunk).buffer (look maxLine buffer chunk).rest :=
        ih (hlooked.length_buffer_lt hroom) (by omega) (by omega)
      rw [feed_succ rfl hne, feed_succ rfl hne, htail]

/-- The first look, and all the others. -/
theorem feedAll_look {l : Look} (hl : look maxLine buffer chunk = l) (hne : chunk ≠ []) :
    feedAll maxLine buffer (chunk :: chunks) =
      (l.piece.toList ++ (feedAll maxLine l.buffer (l.rest :: chunks)).1,
        (feedAll maxLine l.buffer (l.rest :: chunks)).2) := by
  have hlooked : Looked maxLine buffer chunk l := hl ▸ looked_of_word hword hroom chunk
  have hrest := hlooked.length_rest_lt hroom hne
  have hfeed : feed maxLine chunk.length l.buffer l.rest = feed maxLine (l.rest.length + 1) l.buffer l.rest :=
    feed_congr hword (hlooked.length_buffer_lt hroom) (by omega) (by omega)
  simp only [feedAll, feed_succ hl hne, hfeed, List.append_assoc]

end Words

/-! ## The loop -/

/-- The loop between two looks. -/
structure Loop where
  /-- The bytes of the line that is open. -/
  buffer : List UInt8
  /-- What is left of the chunk that has been read, and those that have not been. -/
  chunks : List (List UInt8)
  /-- The lines that have been handed on. -/
  sent : List Piece

namespace Loop

def start (chunks : List (List UInt8)) : Loop := ⟨[], chunks, []⟩

/-- One look at what has been read; at the end of the output there is nothing to look at. -/
def next (maxLine : Nat) (s : Loop) : Loop :=
  match s.chunks with
  | [] => s
  | chunk :: chunks =>
    let l := look maxLine s.buffer chunk
    ⟨l.buffer, if l.rest = [] then chunks else l.rest :: chunks, s.sent ++ l.piece.toList⟩

/-- The loop after so many looks. -/
def after (maxLine : Nat) (chunks : List (List UInt8)) (n : Nat) : Loop := (next maxLine)^[n] (start chunks)

/-- The number of bytes that have not been used up. -/
def left (s : Loop) : Nat := s.chunks.flatten.length

/-- There is room for the line that is open, and every chunk has some bytes. -/
structure Sound (maxLine : Nat) (s : Loop) : Prop where
  room : s.buffer.length < maxLine
  chunks_ne : ∀ chunk ∈ s.chunks, chunk ≠ []

variable {s : Loop}

theorem next_of_nil (h : s.chunks = []) : next maxLine s = s := by
  rw [next, h]

theorem left_ahead (rest : List UInt8) (chunks : List (List UInt8)) :
    (if rest = [] then chunks else rest :: chunks).flatten.length =
      rest.length + chunks.flatten.length := by
  split_ifs with h <;> simp [h]

section Words

variable (hword : maxLine + 1 < UInt64.size) (hs : Sound maxLine s)
include hword hs

theorem Sound.next : Sound maxLine (s.next maxLine) := by
  cases hchunks : s.chunks with
  | nil => rwa [next_of_nil hchunks]
  | cons chunk chunks =>
    simp only [Loop.next, hchunks]
    refine ⟨(looked_of_word hword hs.room chunk).length_buffer_lt hs.room, ?_⟩
    have hothers : ∀ c ∈ chunks, c ≠ [] := fun c hc => hs.chunks_ne c (hchunks ▸ List.mem_cons_of_mem _ hc)
    dsimp only
    split_ifs with hrest
    · exact hothers
    · exact List.forall_mem_cons.mpr ⟨hrest, hothers⟩

/-- A look uses up at least one byte. -/
theorem Sound.left_next_lt (hopen : s.chunks ≠ []) : (s.next maxLine).left < s.left := by
  obtain ⟨chunk, chunks, hchunks⟩ := List.exists_cons_of_ne_nil hopen
  have hne : chunk ≠ [] := hs.chunks_ne chunk (hchunks ▸ List.mem_cons_self)
  have hrest := (looked_of_word hword hs.room chunk).length_rest_lt hs.room hne
  simp only [left, Loop.next, hchunks, left_ahead, List.flatten_cons, List.length_append]
  omega

/-- The lines that have been handed on, with those to come, stay the same. -/
theorem Sound.sent_next : (s.next maxLine).sent ++
    piecesFrom maxLine (s.next maxLine).buffer (s.next maxLine).chunks =
      s.sent ++ piecesFrom maxLine s.buffer s.chunks := by
  cases hchunks : s.chunks with
  | nil => rw [next_of_nil hchunks, hchunks]
  | cons chunk chunks =>
    have hne : chunk ≠ [] := hs.chunks_ne chunk (hchunks ▸ List.mem_cons_self)
    have hahead (buffer rest : List UInt8) :
        piecesFrom maxLine buffer (if rest = [] then chunks else rest :: chunks) =
          piecesFrom maxLine buffer (rest :: chunks) := by
      split_ifs with h <;> simp [h, piecesFrom]
    simp only [Loop.next, hchunks, hahead]
    simp only [piecesFrom, feedAll_look hword hs.room rfl hne, List.append_assoc]

end Words

theorem after_succ (maxLine : Nat) (chunks : List (List UInt8)) (n : Nat) :
    after maxLine chunks (n + 1) = (after maxLine chunks n).next maxLine :=
  Function.iterate_succ_apply' _ _ _

theorem sound_start (hpos : 0 < maxLine) (hne : ∀ chunk ∈ chunks, chunk ≠ []) :
    Sound maxLine (start chunks) := ⟨hpos, hne⟩

section Words

variable (hpos : 0 < maxLine) (hword : maxLine + 1 < UInt64.size) (hne : ∀ chunk ∈ chunks, chunk ≠ [])
include hpos hword hne

theorem sound_after (n : Nat) : Sound maxLine (after maxLine chunks n) := by
  induction n with
  | zero => exact sound_start hpos hne
  | succ n ih => exact after_succ maxLine chunks n ▸ ih.next hword

theorem sent_after (n : Nat) : (after maxLine chunks n).sent ++
    piecesFrom maxLine (after maxLine chunks n).buffer (after maxLine chunks n).chunks =
      pieces maxLine chunks := by
  induction n with
  | zero => rfl
  | succ n ih => rw [after_succ, (sound_after hpos hword hne n).sent_next hword, ih]

/-- The loop gets to the end of the output. -/
theorem exists_after_eq_nil :
    ∃ n, n ≤ chunks.flatten.length ∧ (after maxLine chunks n).chunks = [] := by
  by_contra hnever
  simp only [not_exists, not_and] at hnever
  -- otherwise each look up to there uses up a byte
  have hleft : ∀ n, n ≤ chunks.flatten.length → (after maxLine chunks n).left + n ≤ chunks.flatten.length := by
    intro n hn
    induction n with
    | zero => exact Nat.le_refl _
    | succ n ih =>
      have hlt := (sound_after hpos hword hne n).left_next_lt hword (hnever n (by omega))
      rw [after_succ]
      have := ih (by omega)
      omega
  have hzero : (after maxLine chunks chunks.flatten.length).left = 0 := by
    have := hleft _ (Nat.le_refl _)
    omega
  refine hnever _ (Nat.le_refl _) ?_
  rw [left, List.length_eq_zero_iff, List.flatten_eq_nil_iff] at hzero
  by_contra hopen
  obtain ⟨chunk, hchunk⟩ := List.exists_mem_of_ne_nil _ hopen
  exact (sound_after hpos hword hne _).chunks_ne chunk hchunk (hzero chunk hchunk)

end Words

/-! ## Words that overflow -/

section Overflow

variable (hmax : maxLine + 1 = UInt64.size)
include hmax

/-- With the largest word as the bound, one byte more than there is room for is none. -/
theorem look_of_overflow (chunk : List UInt8) : look maxLine [] chunk = ⟨none, [], chunk⟩ := by
  have hreach : reach maxLine [] = 0 := by
    rw [reach, List.length_nil, Nat.sub_zero, hmax, Nat.mod_self]
  have hpos : 0 < maxLine := Nat.pos_of_ne_zero fun h => by simp [h, UInt64.size] at hmax
  have hcut : cutAtLineFeed 0 chunk = none := rfl
  simp only [look, hreach, hcut, Nat.zero_min, List.take_zero, List.drop_zero, List.append_nil]
  exact if_neg (Nat.not_le.mpr hpos)

theorem after_of_overflow (hne : ∀ chunk ∈ chunks, chunk ≠ []) (n : Nat) :
    after maxLine chunks n = start chunks := by
  have hnext : (start chunks).next maxLine = start chunks := by
    cases chunks with
    | nil => rfl
    | cons chunk chunks => simp [next, start, look_of_overflow hmax, hne chunk List.mem_cons_self]
  exact Function.iterate_fixed hnext n

theorem feedAll_of_overflow (chunks : List (List UInt8)) : feedAll maxLine [] chunks = ([], []) := by
  have hfeed (fuel : Nat) (chunk : List UInt8) : feed maxLine fuel [] chunk = ([], []) := by
    induction fuel with
    | zero => rfl
    | succ fuel ih =>
      by_cases hne : chunk = []
      · rw [hne, feed_nil]
      · rw [feed_succ (look_of_overflow hmax chunk) hne, ih]
        rfl
  induction chunks with
  | nil => rfl
  | cons chunk chunks ih => simp only [feedAll, hfeed, ih, List.append_nil]

theorem pieces_of_overflow (chunks : List (List UInt8)) : pieces maxLine chunks = [] := by
  rw [pieces, piecesFrom, feedAll_of_overflow hmax]
  rfl

end Overflow

/-! ## Every bound that can be configured -/

/-- How the loop goes over some chunks when a session is to record so many bytes. -/
structure Paced (maxOutputBytes : Nat) (chunks : List (List UInt8)) : Prop where
  /-- The open line is never longer than the bound; there is always room. -/
  room (n : Nat) : (after (bound maxOutputBytes) chunks n).buffer.length < bound maxOutputBytes
  /-- One byte more than there is room for is a word, unless the bound is the largest word. -/
  word (n : Nat) :
    bound maxOutputBytes - (after (bound maxOutputBytes) chunks n).buffer.length + 1 < UInt64.size ↔
      maxOutputBytes + 1 < UInt64.size
  /-- With every other bound a look at a chunk uses up some of it, -/
  consumes (h : maxOutputBytes + 1 < UInt64.size) (n : Nat)
    (hopen : (after (bound maxOutputBytes) chunks n).chunks ≠ []) :
    (after (bound maxOutputBytes) chunks (n + 1)).left < (after (bound maxOutputBytes) chunks n).left
  /-- and the loop gets to the end of the output, where all lines have been handed on but the open one. -/
  ends (h : maxOutputBytes + 1 < UInt64.size) :
    ∃ n, n ≤ chunks.flatten.length ∧ (after (bound maxOutputBytes) chunks n).chunks = [] ∧
      (after (bound maxOutputBytes) chunks n).sent ++ flush (after (bound maxOutputBytes) chunks n).buffer =
        pieces (bound maxOutputBytes) chunks
  /-- With that one it stays where it has started, and nothing is ever handed on. -/
  stays (h : maxOutputBytes + 1 = UInt64.size) (n : Nat) :
    after (bound maxOutputBytes) chunks n = start chunks ∧ pieces (bound maxOutputBytes) chunks = []

theorem paced_loop {maxOutputBytes : Nat} (h : maxOutputBytes < UInt64.size)
    (hne : ∀ chunk ∈ chunks, chunk ≠ []) : Paced maxOutputBytes chunks := by
  have hbound : bound maxOutputBytes = max maxOutputBytes 1 := rfl
  have hsize : UInt64.size = 18446744073709551616 := rfl
  have hpos : 0 < bound maxOutputBytes := by omega
  rcases Nat.lt_or_eq_of_le (Nat.succ_le_of_lt h) with hless | hmost
  · have hword : bound maxOutputBytes + 1 < UInt64.size := by omega
    have hsound := sound_after hpos hword hne
    refine ⟨fun n => (hsound n).room, fun n => iff_of_true (by omega) hless, ?_, ?_, ?_⟩
    · intro _ n hopen
      rw [after_succ]
      exact (hsound n).left_next_lt hword hopen
    · intro _
      obtain ⟨n, hn, hend⟩ := exists_after_eq_nil hpos hword hne
      refine ⟨n, hn, hend, ?_⟩
      rw [← sent_after hpos hword hne n, hend]
      rfl
    · exact fun hmost => absurd hmost (Nat.ne_of_lt hless)
  · have hmax : bound maxOutputBytes + 1 = UInt64.size := by omega
    have hstays := after_of_overflow hmax hne
    refine ⟨fun n => ?_, fun n => ?_, fun hless => absurd hmost (Nat.ne_of_lt hless),
      fun hless => absurd hmost (Nat.ne_of_lt hless), fun _ n => ⟨hstays n, pieces_of_overflow hmax chunks⟩⟩
    · rw [hstays n]
      exact hpos
    · rw [hstays n, start, List.length_nil]
      omega

/-- A line that arrives before its line feed does. -/
def greeting : List (List UInt8) := [[104, 105], [10]]

theorem paced_loop_greeting :
    UInt64.size - 2 < UInt64.size ∧ (∀ chunk ∈ greeting, chunk ≠ []) ∧ Paced (UInt64.size - 2) greeting := by
  have hless : UInt64.size - 2 < UInt64.size := by decide
  have hne : ∀ chunk ∈ greeting, chunk ≠ [] := by decide
  exact ⟨hless, hne, paced_loop hless hne⟩

/-- With the largest bound the loop looks at none of its bytes, for ever. -/
theorem unlimited_stays :
    bound (UInt64.size - 1) - (start greeting).buffer.length + 1 = UInt64.size ∧
      (∀ n, (after (bound (UInt64.size - 1)) greeting n).left = 3) ∧
      pieces (bound (UInt64.size - 1)) greeting = [] := by
  have hmax : bound (UInt64.size - 1) + 1 = UInt64.size := rfl
  refine ⟨rfl, fun n => ?_, pieces_of_overflow hmax _⟩
  rw [after_of_overflow hmax (by decide)]
  rfl

end Loop

end Flowline.Simulation.Lines
