import Flowline.Proofs.Simulation.Account
import Mathlib.Algebra.GroupWithZero.Nat

/-!
# What a session records

A session is given lines and ends, in any order.  `Recorded` says what its log is for the lines that come before
the first end: all of them while the output among them is within the bound; else those up to the first line of
output beyond it, the marker in place of that line, and then the lines of the runner only.  Each branch of
`Session.append` is one of the four ways in which this goes on with one more line, and after the end nothing
changes (`logged_after`).
-/

namespace Flowline.Simulation

/-! ## Output within a bound -/

/-- A line that the program wrote, not the runner. -/
def LogLine.isOutput (l : LogLine) : Bool := l.stream ≠ .system

namespace Session

variable {maxBytes : ℕ} {ls log kept : List LogLine} {l : LogLine} {s : Session}

/-- The lines of output among some lines. -/
def output (ls : List LogLine) : List LogLine := ls.filter LogLine.isOutput

/-- The bytes of the output among some lines. -/
def outputSize (ls : List LogLine) : ℕ := ((output ls).map (·.line.utf8ByteSize)).sum

/-- The line that stands for the output that was dropped. -/
def marker : LogLine := ⟨.system, truncationMarker⟩

theorem output_append (ls more : List LogLine) : output (ls ++ more) = output ls ++ output more :=
  List.filter_append _ _

theorem outputSize_append (ls more : List LogLine) :
    outputSize (ls ++ more) = outputSize ls + outputSize more := by
  simp [outputSize, output_append]

theorem outputSize_output (ls : List LogLine) : outputSize (output ls) = outputSize ls := by
  simp [outputSize, output]

theorem outputSize_concat_of_isOutput (hl : l.isOutput = true) :
    outputSize (ls ++ [l]) = outputSize ls + l.line.utf8ByteSize := by
  rw [outputSize_append]
  simp [outputSize, output, hl]

theorem outputSize_concat_of_not_isOutput (hl : l.isOutput = false) :
    outputSize (ls ++ [l]) = outputSize ls := by
  rw [outputSize_append]
  simp [outputSize, output, hl]

theorem outputSize_le_of_isPrefix {more : List LogLine} (h : ls <+: more) :
    outputSize ls ≤ outputSize more := by
  obtain ⟨rest, rfl⟩ := h
  rw [outputSize_append]
  exact Nat.le_add_right _ _

/-- The longest beginning of some lines that is within the bound. -/
structure LongestWithin (maxBytes : ℕ) (kept ls : List LogLine) : Prop where
  isPrefix : kept <+: ls
  fits : outputSize kept ≤ maxBytes
  longest : ∀ other, other <+: ls → outputSize other ≤ maxBytes → other <+: kept

/-! ## Logs -/

/-- What the log is when some lines have been given to a session. -/
inductive Recorded (maxBytes : ℕ) : List LogLine → List LogLine → Prop
  /-- The output is within the bound: all lines. -/
  | whole {ls : List LogLine} (hfits : outputSize ls ≤ maxBytes) : Recorded maxBytes ls ls
  /-- A line of output is the first that is not: the marker instead, and then no more output. -/
  | cut {before after : List LogLine} {l : LogLine} (hl : l.isOutput = true)
    (hfits : outputSize before ≤ maxBytes) (hover : maxBytes < outputSize (before ++ [l])) :
    Recorded maxBytes (before ++ l :: after) (before ++ marker :: after.filter (! ·.isOutput))

namespace Recorded

theorem lt_outputSize {before : List LogLine} (after : List LogLine)
    (hover : maxBytes < outputSize (before ++ [l])) : maxBytes < outputSize (before ++ l :: after) := by
  refine Nat.lt_of_lt_of_le hover (outputSize_le_of_isPrefix ⟨after, ?_⟩)
  simp

/-! ### One more line -/

theorem concat_system (h : Recorded maxBytes ls log) (hl : l.isOutput = false) :
    Recorded maxBytes (ls ++ [l]) (log ++ [l]) := by
  cases h with
  | whole hfits => exact .whole (by rwa [outputSize_concat_of_not_isOutput hl])
  | @cut before after k hk hfits hover =>
    have hnext : Recorded maxBytes (before ++ k :: (after ++ [l])) _ := .cut hk hfits hover
    simpa [List.filter_append, hl] using hnext

theorem concat_within (h : Recorded maxBytes ls log) (hfits : outputSize (ls ++ [l]) ≤ maxBytes) :
    Recorded maxBytes (ls ++ [l]) (log ++ [l]) := by
  cases h with
  | whole => exact .whole hfits
  | @cut before after k _ _ hover =>
    have hcut := lt_outputSize after hover
    rw [outputSize_append] at hfits
    omega

theorem concat_over (h : Recorded maxBytes ls log) (hl : l.isOutput = true)
    (hfits : outputSize ls ≤ maxBytes) (hover : maxBytes < outputSize (ls ++ [l])) :
    Recorded maxBytes (ls ++ [l]) (log ++ [marker]) := by
  cases h with
  | whole _ => exact @cut maxBytes ls [] l hl hfits hover
  | cut _ _ hbefore => exact absurd hfits (Nat.not_le.mpr (lt_outputSize _ hbefore))

theorem concat_dropped (h : Recorded maxBytes ls log) (hl : l.isOutput = true)
    (hover : maxBytes < outputSize ls) : Recorded maxBytes (ls ++ [l]) log := by
  cases h with
  | whole hfits => exact absurd hfits (Nat.not_le.mpr hover)
  | @cut before after k hk hfits hcut =>
    have hnext : Recorded maxBytes (before ++ k :: (after ++ [l])) _ := .cut hk hfits hcut
    simpa [List.filter_append, hl] using hnext

/-! ### What it says of the output and of the runner's lines -/

theorem longestWithin (h : Recorded maxBytes ls log) : LongestWithin maxBytes (output log) (output ls) := by
  cases h with
  | whole hfits =>
    exact ⟨List.prefix_refl _, by rwa [outputSize_output], fun other hother _ => hother⟩
  | @cut before after k hk hfits hover =>
    have hmarker : marker.isOutput = false := rfl
    have hlog : output (before ++ marker :: after.filter (! ·.isOutput)) = output before := by
      simp [output, hmarker]
    have hgiven : output (before ++ k :: after) = output before ++ k :: output after := by
      simp [output, hk]
    rw [hlog, hgiven]
    refine ⟨List.prefix_append _ _, by rwa [outputSize_output], fun other hother hsize => ?_⟩
    by_contra hlonger
    -- it would have the line that does not fit
    have hlength : (output before ++ [k]).length ≤ other.length := by
      by_contra hshort
      rw [List.length_append, List.length_singleton] at hshort
      exact hlonger (List.prefix_of_prefix_length_le hother (List.prefix_append _ _) (by omega))
    have hcut : output before ++ [k] <+: output before ++ k :: output after := ⟨output after, by simp⟩
    have hinside := List.prefix_of_prefix_length_le hcut hother hlength
    have hover' : maxBytes < outputSize (output before ++ [k]) := by
      rw [outputSize_concat_of_isOutput hk] at hover ⊢
      rwa [outputSize_output]
    exact absurd (outputSize_le_of_isPrefix hinside) (by omega)

theorem system_sublist (h : Recorded maxBytes ls log) : (ls.filter (! ·.isOutput)).Sublist log := by
  cases h with
  | whole => exact List.filter_sublist
  | @cut before after k hk _ _ =>
    rw [List.filter_append, List.filter_cons_of_neg (by simp [hk])]
    exact List.filter_sublist.append (List.sublist_cons_self _ _)

end Recorded

/-! ## Calls -/

/-- What a session is asked for. -/
inductive Call
  | append (l : LogLine)
  | finish (o : Outcome)

def call (maxBytes : ℕ) (s : Session) : Call → Option Event × Session
  | .append l => s.append maxBytes l
  | .finish o => s.finish o

/-- The session after some calls. -/
def after (maxBytes : ℕ) (s : Session) (calls : List Call) : Session :=
  calls.foldl (fun s c => (s.call maxBytes c).2) s

/-- The answers to some calls. -/
def answers (maxBytes : ℕ) (s : Session) : List Call → List (Option Event)
  | [] => []
  | c :: calls => (s.call maxBytes c).1 :: answers maxBytes (s.call maxBytes c).2 calls

/-- The lines that are given to a session before the first end. -/
def given : List Call → List LogLine
  | [] => []
  | .append l :: calls => l :: given calls
  | .finish _ :: _ => []

/-- The first end. -/
def end? : List Call → Option Outcome
  | [] => none
  | .append _ :: calls => end? calls
  | .finish o :: _ => some o

/-- What a session counts of the lines that it has recorded. -/
structure Recording (maxBytes : ℕ) (ls : List LogLine) (s : Session) : Prop where
  recorded : Recorded maxBytes ls s.logs.toList
  truncated : s.truncated = true ↔ maxBytes < outputSize ls
  /-- The bytes are only counted up to the bound. -/
  bytes : s.truncated = false → s.outputBytes = outputSize ls

theorem recording_new (maxBytes : ℕ) (id pipeline : String) : Recording maxBytes [] (new id pipeline) where
  recorded := .whole (Nat.zero_le _)
  truncated := by simp [new, outputSize, output]
  bytes _ := rfl

theorem Recording.append (h : Recording maxBytes ls s) (hs : s.status = .running) (l : LogLine) :
    Recording maxBytes (ls ++ [l]) (s.append maxBytes l).2 := by
  have hlive : s.status.isTerminal = false := by rw [hs]; rfl
  rw [Session.append, if_neg (by simp [hlive])]
  by_cases hsystem : l.stream = .system
  · have hl : l.isOutput = false := by simp [LogLine.isOutput, hsystem]
    have hsize : outputSize (ls ++ [l]) = outputSize ls := outputSize_concat_of_not_isOutput hl
    rw [if_pos hsystem]
    refine ⟨?_, ?_, ?_⟩
    · simpa [push] using h.recorded.concat_system hl
    · rw [hsize]
      exact h.truncated
    · rw [hsize]
      exact h.bytes
  · have hl : l.isOutput = true := by simp [LogLine.isOutput, hsystem]
    rw [if_neg hsystem]
    by_cases htruncated : s.truncated = true
    · have hover := h.truncated.mp htruncated
      have hmore := outputSize_le_of_isPrefix (List.prefix_append ls [l])
      rw [if_pos htruncated]
      refine ⟨h.recorded.concat_dropped hl hover, iff_of_true htruncated (by omega), fun hopen => ?_⟩
      exact absurd htruncated (by rw [hopen]; decide)
    · have hfits : outputSize ls ≤ maxBytes := Nat.not_lt.mp (mt h.truncated.mpr htruncated)
      have hbytes : s.outputBytes + l.line.utf8ByteSize = outputSize (ls ++ [l]) := by
        rw [h.bytes (Bool.eq_false_iff.mpr htruncated), outputSize_concat_of_isOutput hl]
      rw [if_neg htruncated]
      simp only [hbytes]
      by_cases hover : maxBytes < outputSize (ls ++ [l])
      · rw [if_pos hover]
        refine ⟨?_, iff_of_true rfl hover, fun hopen => by cases hopen⟩
        simpa [push, marker] using h.recorded.concat_over hl hfits hover
      · rw [if_neg hover]
        refine ⟨?_, iff_of_false htruncated hover, fun _ => rfl⟩
        simpa [push] using h.recorded.concat_within (Nat.not_lt.mp hover)

theorem Recording.finish (h : Recording maxBytes ls s) (o : Outcome) :
    Recording maxBytes ls (s.finish o).2 := by
  rw [Session.finish]
  by_cases hterminal : s.status.isTerminal = true
  · rw [if_pos hterminal]
    exact h
  · rw [if_neg hterminal]
    exact ⟨h.recorded, h.truncated, h.bytes⟩

/-- A session is running, or it has ended in some way. -/
def EndedBy (s : Session) : Option Outcome → Prop
  | none => s.status = .running ∧ s.outcome = none
  | some o => s.status = (if o.success then .succeeded else .failed) ∧ s.outcome = some o

theorem endedBy_append (h : s.EndedBy none) (maxBytes : ℕ) (l : LogLine) :
    (s.append maxBytes l).2.EndedBy none := by
  obtain ⟨hrunning, houtcome⟩ := h
  have hkept : (s.append maxBytes l).2.outcome = s.outcome := by
    unfold Session.append
    dsimp only
    split_ifs <;> rfl
  exact ⟨(append_running hrunning maxBytes l).1, hkept.trans houtcome⟩

theorem endedBy_finish (h : s.EndedBy none) (o : Outcome) : (s.finish o).2.EndedBy (some o) := by
  have hlive : s.status.isTerminal = false := by rw [h.1]; rfl
  rw [Session.finish, if_neg (by simp [hlive])]
  exact ⟨rfl, rfl⟩

theorem EndedBy.isTerminal {o : Outcome} (h : s.EndedBy (some o)) : s.status.isTerminal = true := by
  rw [h.1]
  cases o.success <;> rfl

/-- Nothing changes after the end. -/
theorem after_terminal (maxBytes : ℕ) (h : s.status.isTerminal = true) (calls : List Call) :
    s.after maxBytes calls = s ∧ ∀ e ∈ s.answers maxBytes calls, e = none := by
  have hcall (c : Call) : s.call maxBytes c = (none, s) := by
    cases c with
    | append l => exact append_terminal h maxBytes l
    | finish o => exact finish_terminal h o
  induction calls with
  | nil => exact ⟨rfl, List.forall_mem_nil _⟩
  | cons c calls ih =>
    rw [after, List.foldl_cons, answers, hcall c]
    exact ⟨ih.1, List.forall_mem_cons.mpr ⟨rfl, ih.2⟩⟩

theorem after_cons (c : Call) (calls : List Call) :
    s.after maxBytes (c :: calls) = (s.call maxBytes c).2.after maxBytes calls := rfl

/-- Up to the first end every line is recorded in its turn, and the session ends with that end. -/
theorem Recording.after (h : Recording maxBytes ls s) (hs : s.EndedBy none) (calls : List Call) :
    Recording maxBytes (ls ++ given calls) (s.after maxBytes calls) ∧
      (s.after maxBytes calls).EndedBy (end? calls) := by
  induction calls generalizing ls s with
  | nil =>
    rw [given, List.append_nil]
    exact ⟨h, hs⟩
  | cons c calls ih =>
    cases c with
    | append l =>
      rw [given, List.append_cons]
      exact ih (h.append hs.1 l) (endedBy_append hs maxBytes l)
    | finish o =>
      have hended := endedBy_finish hs o
      rw [given, List.append_nil, after_cons, call, (after_terminal maxBytes hended.isTerminal calls).1]
      exact ⟨h.finish o, hended⟩

/-- What a session answers is what there is to tell of it. -/
theorem story_after (hs : s.EndedBy none) (calls : List Call) :
    (s.after maxBytes calls).story = s.story ++ (s.answers maxBytes calls).flatMap Option.toList := by
  induction calls generalizing s with
  | nil => exact (List.append_nil _).symm
  | cons c calls ih =>
    rw [after_cons, answers, List.flatMap_cons, ← List.append_assoc]
    cases c with
    | append l =>
      rw [call, ← story_append hs.1 maxBytes l]
      exact ih (endedBy_append hs maxBytes l)
    | finish o =>
      obtain ⟨hsame, hnone⟩ := after_terminal maxBytes (endedBy_finish hs o).isTerminal calls
      rw [call, ← story_finish hs.1 o, hsame,
        List.flatMap_eq_nil_iff.mpr fun e he => by rw [hnone e he]; rfl, List.append_nil]

/-! ## What users may rely on -/

/-- What holds of a new session after some calls. -/
structure Logged (maxBytes : ℕ) (calls : List Call) (s : Session) : Prop where
  recorded : Recorded maxBytes (given calls) s.logs.toList
  /-- The output in the log is the longest beginning of the output that is within the bound. -/
  output : LongestWithin maxBytes (output s.logs.toList) (output (given calls))
  /-- Every line of the runner is in the log, in their order. -/
  system : ((given calls).filter (! ·.isOutput)).Sublist s.logs.toList
  truncated : s.truncated = true ↔ maxBytes < outputSize (given calls)
  /-- The session has ended exactly if an end was among the calls, in the way of the first one. -/
  ended : s.EndedBy (end? calls)
  succeeded : s.status = .succeeded ↔
    ∃ o, end? calls = some o ∧ o.reason = .exited ∧ o.exitCode = some 0
  /-- After the first end no call has an effect or an answer. -/
  final : end? calls ≠ none → ∀ more,
    s.after maxBytes more = s ∧ ∀ e ∈ s.answers maxBytes more, e = none

theorem EndedBy.succeeded_iff {end? : Option Outcome} (h : s.EndedBy end?) :
    s.status = .succeeded ↔ ∃ o, end? = some o ∧ o.reason = .exited ∧ o.exitCode = some 0 := by
  cases end? with
  | none => simp [h.1]
  | some o =>
    rw [h.1]
    simp [Outcome.success]

/-- Whatever a new session is asked for, it records the lines up to its end within its bound. -/
theorem logged_after (maxBytes : ℕ) (id pipeline : String) (calls : List Call) :
    Logged maxBytes calls ((new id pipeline).after maxBytes calls) ∧
      ((new id pipeline).answers maxBytes calls).flatMap Option.toList =
        ((new id pipeline).after maxBytes calls).story := by
  have hnew : (new id pipeline).EndedBy none := ⟨rfl, rfl⟩
  obtain ⟨hrecording, hended⟩ := (recording_new maxBytes id pipeline).after hnew calls
  rw [List.nil_append] at hrecording
  refine ⟨?_, (story_after hnew calls).symm⟩
  constructor
  case recorded => exact hrecording.recorded
  case output => exact hrecording.recorded.longestWithin
  case system => exact hrecording.recorded.system_sublist
  case truncated => exact hrecording.truncated
  case ended => exact hended
  case succeeded => exact hended.succeeded_iff
  case final =>
    intro hend more
    obtain ⟨o, ho⟩ := Option.ne_none_iff_exists'.mp hend
    rw [ho] at hended
    exact after_terminal maxBytes hended.isTerminal more

end Session

end Flowline.Simulation
