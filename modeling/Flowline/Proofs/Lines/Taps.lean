import Flowline.Proofs.Lines.Pieces
import Flowline.Proofs.Simulation.Logging
import Flowline.Simulation.Run
import Mathlib.Logic.Function.Basic

/-!
# Lines of a run

What comes out of a program comes in bit by bit: bytes on either output, and the end of an output.  `Intake`
says which lines that makes, in the order in which they are complete, without a tap and without a queue.  A
tap that takes in the same holds these lines but for those that were taken from it (`Tap.Holds`), and the
lines of one output are the pieces of the bytes that were written to it, whatever came in on the other in
between (`Intake.onOutput_closed`); so no byte of a run's output is lost on its way (`conserved_chunksOn`).
-/

namespace Flowline.Simulation

open Shell (Console)

namespace Lines

theorem flatten_cut (size : Nat) (bytes : List UInt8) : (cut size bytes).flatten = bytes := by
  fun_induction cut size bytes with
  | case1 => simp
  | case2 bytes h hlength ih => rw [List.flatten_cons, ih, List.take_append_drop]

theorem flatten_arrivals (bytes : List UInt8) : (arrivals bytes).flatten = bytes := flatten_cut _ _

/-- The chunks of some output and of what comes after it. -/
theorem feedAll_append (maxLine : Nat) (buffer : List UInt8) (chunks others : List (List UInt8)) :
    feedAll maxLine buffer (chunks ++ others) =
      ((feedAll maxLine buffer chunks).1 ++ (feedAll maxLine (feedAll maxLine buffer chunks).2 others).1,
        (feedAll maxLine (feedAll maxLine buffer chunks).2 others).2) := by
  induction chunks generalizing buffer with
  | nil => rfl
  | cons chunk chunks ih => simp [feedAll, ih]

end Lines

/-! ## Arrivals -/

/-- What comes out of a program. -/
inductive Arrival
  /-- Some bytes on an output. -/
  | bytes (o : Console) (bs : List UInt8)
  /-- The end of an output. -/
  | ends (o : Console)

namespace Arrival

variable {history : List Arrival} {a : Arrival} {o : Console}

/-- What was written to an output in one go. -/
def ofWritten (c : Nat × Console × List UInt8) : Arrival := .bytes c.2.1 c.2.2

def written? : Arrival → Option (Console × List UInt8)
  | .bytes o bs => some (o, bs)
  | .ends _ => none

/-- What was written, in its order. -/
def written (history : List Arrival) : List (Console × List UInt8) := history.filterMap written?

/-- The bytes that came in on an output. -/
def bytesOn (o : Console) (history : List Arrival) : List UInt8 :=
  history.flatMap fun
    | .bytes p bs => if p = o then bs else []
    | .ends _ => []

/-- The chunks in which they did. -/
def chunksOn (o : Console) (history : List Arrival) : List (List UInt8) :=
  history.flatMap fun
    | .bytes p bs => if p = o then Lines.arrivals bs else []
    | .ends _ => []

/-- Nothing comes in on an output after its end. -/
def MayPrecede (a b : Arrival) : Prop := ∀ o bs, a = .ends o → b ≠ .bytes o bs

theorem chunksOn_concat_bytes (o p : Console) (bs : List UInt8) : chunksOn o (history ++ [.bytes p bs]) =
    chunksOn o history ++ if p = o then Lines.arrivals bs else [] := by
  simp [chunksOn]

theorem chunksOn_concat_ends (o p : Console) : chunksOn o (history ++ [.ends p]) = chunksOn o history := by
  simp [chunksOn]

theorem flatten_chunksOn (o : Console) (history : List Arrival) :
    (chunksOn o history).flatten = bytesOn o history := by
  induction history with
  | nil => rfl
  | cons a history ih =>
    rw [chunksOn, List.flatMap_cons, List.flatten_append, bytesOn, List.flatMap_cons]
    refine congrArg₂ (· ++ ·) ?_ ih
    cases a with
    | bytes p bs =>
      dsimp only
      split_ifs
      · exact Lines.flatten_arrivals bs
      · rfl
    | ends p => rfl

theorem pairwise_concat (h : history.Pairwise MayPrecede)
    (ha : ∀ o bs, a = .bytes o bs → .ends o ∉ history) : (history ++ [a]).Pairwise MayPrecede := by
  refine List.pairwise_append.mpr ⟨h, List.pairwise_singleton _ _, fun b hb c hc o bs hends hbytes => ?_⟩
  rw [List.mem_singleton.mp hc] at hbytes
  exact ha o bs hbytes (hends ▸ hb)

end Arrival

open Arrival

/-! ## Lines of one output -/

namespace Tap

variable {maxLine elapsed : Nat} {t : Tap}

/-- The lines of one output, in their order. -/
def onOutput (o : Console) (ls : List LogLine) : List LogLine := ls.filter (·.stream = streamOf o)

theorem streamOf_inj {o p : Console} : streamOf o = streamOf p ↔ o = p := by
  cases o <;> cases p <;> decide

theorem onOutput_append (o : Console) (ls others : List LogLine) :
    onOutput o (ls ++ others) = onOutput o ls ++ onOutput o others := List.filter_append _ _

theorem lines_append (o : Console) (ps qs : List Lines.Piece) : lines o (ps ++ qs) = lines o ps ++ lines o qs :=
  List.map_append

/-- The lines of an output are on that output only. -/
theorem onOutput_lines (o p : Console) (ps : List Lines.Piece) :
    onOutput o (lines p ps) = if p = o then lines p ps else [] := by
  rw [onOutput, lines, List.filter_map]
  split_ifs with h
  · rw [List.filter_eq_self.mpr fun q _ => by simp [h]]
  · rw [List.filter_eq_nil_iff.mpr fun q _ => by simp [streamOf_inj, h]]
    rfl

theorem isOutput_of_mem_lines {o : Console} {ps : List Lines.Piece} {l : LogLine} (hl : l ∈ lines o ps) :
    l.isOutput = true := by
  obtain ⟨q, -, rfl⟩ := List.mem_map.mp hl
  cases o <;> rfl

end Tap

/-! ## The lines of what has come in -/

/-- The lines that are complete, and the bytes of the one that is open on each output. -/
structure Intake where
  lines : List LogLine
  opened : Console → List UInt8

namespace Intake

variable {maxLine : Nat} {history : List Arrival} {o : Console}

def after (maxLine : Nat) (i : Intake) : Arrival → Intake
  | .bytes o bs =>
    let (pieces, rest) := Lines.feedAll maxLine (i.opened o) (Lines.arrivals bs)
    ⟨i.lines ++ Tap.lines o pieces, Function.update i.opened o rest⟩
  | .ends o => ⟨i.lines ++ Tap.lines o (Lines.flush (i.opened o)), Function.update i.opened o []⟩

@[simp] theorem opened_after_ends (i : Intake) (o : Console) :
    (i.after maxLine (.ends o)).opened = Function.update i.opened o [] := rfl

@[simp] theorem lines_after_ends (i : Intake) (o : Console) :
    (i.after maxLine (.ends o)).lines = i.lines ++ Tap.lines o (Lines.flush (i.opened o)) := rfl

/-- What has come in, from the first arrival to the last. -/
def of (maxLine : Nat) (history : List Arrival) : Intake := history.foldl (after maxLine) ⟨[], fun _ => []⟩

/-- What has come in once both outputs are at their end. -/
def closed (maxLine : Nat) (history : List Arrival) : Intake :=
  of maxLine (history ++ [.ends .out, .ends .err])

theorem of_append (history more : List Arrival) :
    of maxLine (history ++ more) = more.foldl (after maxLine) (of maxLine history) := List.foldl_append

theorem of_concat (history : List Arrival) (a : Arrival) :
    of maxLine (history ++ [a]) = (of maxLine history).after maxLine a := List.foldl_concat _ _ _ _

theorem isOutput_of (history : List Arrival) : ∀ l ∈ (of maxLine history).lines, l.isOutput = true := by
  induction history using List.reverseRecOn with
  | nil => exact List.forall_mem_nil _
  | append_singleton history a ih =>
    rw [of_concat]
    cases a with
    | bytes o bs => exact List.forall_mem_append.mpr ⟨ih, fun _ => Tap.isOutput_of_mem_lines⟩
    | ends o => exact List.forall_mem_append.mpr ⟨ih, fun _ => Tap.isOutput_of_mem_lines⟩

/-- What comes in on one output changes nothing of the other. -/
theorem onOutput_after_of_ne (maxLine : Nat) (i : Intake) {a : Arrival} (ha : ∀ bs, a ≠ .bytes o bs)
    (hends : a ≠ .ends o) :
    (i.after maxLine a).opened o = i.opened o ∧
      Tap.onOutput o (i.after maxLine a).lines = Tap.onOutput o i.lines := by
  cases a with
  | bytes p bs =>
    have hne : p ≠ o := fun h => ha bs (by rw [h])
    refine ⟨Function.update_of_ne hne.symm _ _, ?_⟩
    rw [after, Tap.onOutput_append, Tap.onOutput_lines, if_neg hne, List.append_nil]
  | ends p =>
    have hne : p ≠ o := fun h => hends (by rw [h])
    refine ⟨Function.update_of_ne hne.symm _ _, ?_⟩
    rw [after, Tap.onOutput_append, Tap.onOutput_lines, if_neg hne, List.append_nil]

/-- Before the end of an output its lines are those that its chunks have completed. -/
theorem onOutput_of_open (maxLine : Nat) (hopen : .ends o ∉ history) :
    (of maxLine history).opened o = (Lines.feedAll maxLine [] (chunksOn o history)).2 ∧
      Tap.onOutput o (of maxLine history).lines =
        Tap.lines o (Lines.feedAll maxLine [] (chunksOn o history)).1 := by
  induction history using List.reverseRecOn with
  | nil => exact ⟨rfl, rfl⟩
  | append_singleton history a ih =>
    rw [List.mem_append, List.mem_singleton, not_or] at hopen
    obtain ⟨hopened, hlines⟩ := ih hopen.1
    rw [of_concat]
    cases a with
    | bytes p bs =>
      rw [chunksOn_concat_bytes]
      by_cases hp : p = o
      · subst hp
        rw [if_pos rfl, Lines.feedAll_append, ← hopened]
        refine ⟨Function.update_self _ _ _, ?_⟩
        rw [after, Tap.onOutput_append, hlines, Tap.onOutput_lines, if_pos rfl, Tap.lines_append]
      · have hother : ∀ bs', Arrival.bytes p bs ≠ .bytes o bs' := fun bs' h => hp (by injection h)
        obtain ⟨hsame, hsameLines⟩ := onOutput_after_of_ne maxLine (of maxLine history) hother (by simp)
        rw [if_neg hp, List.append_nil, hsame, hsameLines]
        exact ⟨hopened, hlines⟩
    | ends p =>
      have hother : Arrival.ends p ≠ .ends o := Ne.symm hopen.2
      obtain ⟨hsame, hsameLines⟩ := onOutput_after_of_ne maxLine (of maxLine history) (by simp) hother
      rw [chunksOn_concat_ends, hsame, hsameLines]
      exact ⟨hopened, hlines⟩

/-- After the end of an output its lines are those of its chunks. -/
theorem onOutput_of_ended (hordered : history.Pairwise MayPrecede) (hended : .ends o ∈ history) :
    (of maxLine history).opened o = [] ∧
      Tap.onOutput o (of maxLine history).lines =
        Tap.lines o (Lines.pieces maxLine (chunksOn o history)) := by
  induction history using List.reverseRecOn with
  | nil => cases hended
  | append_singleton history a ih =>
    obtain ⟨hbefore, -, hlast⟩ := List.pairwise_append.mp hordered
    by_cases hmem : .ends o ∈ history
    · obtain ⟨hopened, hlines⟩ := ih hbefore hmem
      have hbytes : ∀ bs, a ≠ .bytes o bs := fun bs => hlast _ hmem a (by simp) o bs rfl
      have hchunks : chunksOn o (history ++ [a]) = chunksOn o history := by
        cases a with
        | bytes p bs => rw [chunksOn_concat_bytes, if_neg (fun h => hbytes bs (by rw [h])), List.append_nil]
        | ends p => exact chunksOn_concat_ends o p
      rw [of_concat, hchunks, ← hlines]
      by_cases hends : a = .ends o
      · subst hends
        refine ⟨Function.update_self _ _ _, ?_⟩
        rw [after, hopened]
        exact congrArg (Tap.onOutput o) (List.append_nil _)
      · rw [← hopened]
        exact onOutput_after_of_ne maxLine _ hbytes hends
    · obtain rfl : Arrival.ends o = a := by
        simpa [hmem] using hended
      obtain ⟨hopened, hlines⟩ := onOutput_of_open maxLine hmem
      rw [of_concat, chunksOn_concat_ends]
      refine ⟨Function.update_self _ _ _, ?_⟩
      rw [after, Tap.onOutput_append, hlines, hopened, Tap.onOutput_lines, if_pos rfl, ← Tap.lines_append]
      rfl

/-- Once both outputs are at their end, the lines of each are those of its chunks. -/
theorem onOutput_closed (hordered : history.Pairwise MayPrecede) (o : Console) :
    Tap.onOutput o (closed maxLine history).lines =
      Tap.lines o (Lines.pieces maxLine (chunksOn o history)) := by
  have hout : (history ++ [ends .out]).Pairwise MayPrecede := pairwise_concat hordered (by simp)
  have herr : (history ++ [ends .out] ++ [ends .err]).Pairwise MayPrecede := pairwise_concat hout (by simp)
  have hends : (history ++ [ends .out, ends .err]).Pairwise MayPrecede := by
    rwa [List.append_assoc] at herr
  have hmem : ends o ∈ history ++ [ends .out, ends .err] := by cases o <;> simp
  have hchunks : chunksOn o (history ++ [ends .out, ends .err]) = chunksOn o history := by simp [chunksOn]
  rw [closed, (onOutput_of_ended hends hmem).2, hchunks]

/-- The end of outputs that have ended already adds no line. -/
theorem lines_closed_of_ended (hordered : history.Pairwise MayPrecede) (hended : ∀ o, .ends o ∈ history) :
    (closed maxLine history).lines = (of maxLine history).lines := by
  have hopened : ∀ o, (of maxLine history).opened o = [] :=
    fun o => (onOutput_of_ended hordered (hended o)).1
  have hnone : Lines.flush [] = [] := rfl
  rw [closed, of_append]
  simp only [List.foldl_cons, List.foldl_nil, after, hopened, hnone]
  rw [Function.update_of_ne (by simp), hopened, hnone]
  simp [Tap.lines]

end Intake

/-- No byte is lost on the way from a program to the lines of an output. -/
theorem conserved_chunksOn {maxLine : Nat} (hpos : 0 < maxLine) (hword : maxLine + 1 < UInt64.size)
    (o : Console) (history : List Arrival) :
    Lines.Conserved maxLine (bytesOn o history) (Lines.pieces maxLine (chunksOn o history)) := by
  have hroom : ([] : List UInt8).length < maxLine := hpos
  rw [← flatten_chunksOn]
  exact (Lines.splits_feedAll hword hroom List.not_mem_nil (chunksOn o history)).conserved

/-! ## Taps -/

namespace Tap

variable {maxLine elapsed : Nat} {t : Tap} {ls taken : List LogLine} {i : Intake} {o : Console}

theorem opened_setOpened (t : Tap) (o p : Console) (bytes : List UInt8) :
    (t.setOpened p bytes).opened o = Function.update t.opened p bytes o := by
  cases o <;> cases p <;> rfl

@[simp] theorem queue_setOpened (t : Tap) (o : Console) (bytes : List UInt8) :
    (t.setOpened o bytes).queue = t.queue := by
  cases o <;> rfl

theorem queue_enqueue (t : Tap) (ls : List LogLine) : (t.enqueue ls).queue = t.queue ++ ls := by
  unfold enqueue
  split_ifs with h
  · rw [List.isEmpty_iff.mp h, List.append_nil]
  · rfl

@[simp] theorem opened_enqueue (t : Tap) (ls : List LogLine) (o : Console) :
    (t.enqueue ls).opened o = t.opened o := by
  unfold enqueue
  split_ifs
  · rfl
  · cases o <;> rfl

theorem coming_enqueue (t : Tap) (ls : List LogLine) : (t.enqueue ls).coming = t.coming := by
  unfold enqueue
  split_ifs <;> rfl

/-- What has been written by some moment. -/
def due (t : Tap) (elapsed : Nat) : List (Nat × Console × List UInt8) :=
  t.coming.takeWhile fun c => c.1 ≤ elapsed

/-- Some lines were taken from a tap; those that wait in it are the rest of what has come in, and the same lines
are open. -/
structure Holds (t : Tap) (taken : List LogLine) (i : Intake) : Prop where
  opened (o : Console) : t.opened o = i.opened o
  lines : taken ++ t.queue = i.lines

namespace Holds

theorem coming (h : Holds t taken i) (coming : List (Nat × Console × List UInt8)) :
    Holds { t with coming } taken i :=
  ⟨fun o => by rw [← h.opened o]; cases o <;> rfl, h.lines⟩

theorem take {l : LogLine} (h : Holds t taken i) (hl : t.queue.head? = some l) :
    Holds { t with queue := t.queue.drop 1 } (taken ++ [l]) i := by
  obtain ⟨rest, hqueue⟩ := List.head?_eq_some_iff.mp hl
  refine ⟨fun o => by rw [← h.opened o]; cases o <;> rfl, ?_⟩
  rw [← h.lines, hqueue]
  simp

end Holds

/-- Pouring makes the lines that come in, the last one first. -/
theorem foldl_pour (maxLine : Nat) (written : List (Nat × Console × List UInt8))
    (hopened : ∀ o, t.opened o = i.opened o)
    (hlines : taken ++ ls.reverse = i.lines) :
    (∀ o, (written.foldl (pour maxLine) (t, ls)).1.opened o =
      ((written.map ofWritten).foldl (Intake.after maxLine) i).opened o) ∧
    taken ++ (written.foldl (pour maxLine) (t, ls)).2.reverse =
      ((written.map ofWritten).foldl (Intake.after maxLine) i).lines ∧
    (written.foldl (pour maxLine) (t, ls)).1.queue = t.queue := by
  induction written generalizing t ls i with
  | nil => exact ⟨hopened, hlines, rfl⟩
  | cons c written ih =>
    obtain ⟨time, p, bytes⟩ := c
    rw [List.foldl_cons, List.map_cons, List.foldl_cons]
    have hfirst : ∀ o, (pour maxLine (t, ls) (time, p, bytes)).1.opened o =
        (i.after maxLine (ofWritten (time, p, bytes))).opened o := by
      intro o
      simp only [pour, ofWritten, Intake.after, opened_setOpened, hopened p]
      rw [funext hopened]
    have hmade : taken ++ (pour maxLine (t, ls) (time, p, bytes)).2.reverse =
        (i.after maxLine (ofWritten (time, p, bytes))).lines := by
      simp only [pour, ofWritten, Intake.after, hopened p, List.reverse_append, List.reverse_reverse]
      rw [← List.append_assoc, hlines]
    obtain ⟨hrest, hmore, hqueue⟩ := ih hfirst hmade
    exact ⟨hrest, hmore, hqueue.trans (queue_setOpened t p _)⟩

theorem queue_fill (t : Tap) (elapsed : Nat) : (t.fill maxLine elapsed).queue =
    t.queue ++ ((t.due elapsed).foldl (pour maxLine) (t, [])).2.reverse := by
  have hlines : [] ++ ([] : List LogLine).reverse = (⟨[], t.opened⟩ : Intake).lines := rfl
  obtain ⟨-, -, hqueue⟩ := foldl_pour maxLine (t.due elapsed) (fun _ => rfl) hlines
  rw [fill, queue_enqueue]
  exact congrArg (· ++ _) hqueue

theorem coming_fill (t : Tap) :
    (t.fill maxLine elapsed).coming = t.coming.dropWhile fun c => c.1 ≤ elapsed := coming_enqueue _ _

theorem coming_flush (t : Tap) (o : Console) : (t.flush o).coming = t.coming := by
  unfold flush
  split_ifs
  · rfl
  · rw [coming_enqueue]
    cases o <;> rfl

namespace Holds

/-- A tap is filled with what has been written by some moment. -/
theorem fill (h : Holds t taken i) (maxLine elapsed : Nat) : Holds (t.fill maxLine elapsed) taken
    (((t.due elapsed).map ofWritten).foldl (Intake.after maxLine) i) := by
  have hqueued : taken ++ t.queue ++ ([] : List LogLine).reverse = i.lines := by
    rw [List.reverse_nil, List.append_nil, h.lines]
  obtain ⟨hopened, hlines, -⟩ := foldl_pour maxLine (t.due elapsed) h.opened hqueued
  constructor
  · intro o
    rw [← hopened o, Tap.fill, opened_enqueue]
    cases o <;> rfl
  · rw [queue_fill, ← List.append_assoc, hlines]

/-- The line that is open at the end of an output is queued. -/
theorem flush (h : Holds t taken i) (maxLine : Nat) (o : Console) :
    Holds (t.flush o) taken (i.after maxLine (.ends o)) := by
  unfold Tap.flush
  split_ifs with hempty
  · have hnone : i.opened o = [] := by
      rw [← h.opened o]
      exact List.isEmpty_iff.mp hempty
    constructor
    · rw [Intake.opened_after_ends, ← hnone, Function.update_eq_self]
      exact h.opened
    · rw [h.lines, Intake.lines_after_ends, hnone]
      exact (List.append_nil _).symm
  · constructor
    · intro p
      rw [opened_enqueue, opened_setOpened, Intake.opened_after_ends, funext h.opened]
    · rw [queue_enqueue, queue_setOpened, ← List.append_assoc, h.lines, h.opened o]
      rfl

end Holds

/-- An output without an open line is flushed already. -/
theorem flush_of_opened (h : t.opened o = []) : t.flush o = t := if_pos (by rw [h]; rfl)

end Tap

end Flowline.Simulation
