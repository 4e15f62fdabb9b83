import Flowline.Proofs.Simulation.Vigil
import Mathlib.Data.List.TakeWhile

/-!
# Runs are vigils

A run that watches a program goes from moment to moment, by `Watching.step`.  Whatever the program does and
whichever moments these are, it is a vigil in which just that comes in which the program has written by then
(`vigil_of_course`).  So what holds of vigils that are done holds of the outcomes and the lines of runs
(`vigilant_courses`).
-/

namespace Flowline.Simulation

open Relation Shell

/-! ## What is written by some moment -/

section Written

variable {α : Type} {l : List (ℕ × α)} {c : ℕ × α}

theorem takeWhile_lt_max (m n : ℕ) (l : List (ℕ × α)) : l.takeWhile (fun c => c.1 < max m n) =
    l.takeWhile (fun c => c.1 < m) ++ (l.dropWhile fun c => c.1 < m).takeWhile fun c => c.1 < n := by
  rcases Nat.le_total n m with hnm | hmn
  · have hnone : (l.dropWhile fun c => c.1 < m).takeWhile (fun c => c.1 < n) = [] := by
      refine List.takeWhile_eq_nil_iff.mpr fun hlength hn => ?_
      have hm := List.dropWhile_get_zero_not (fun c : ℕ × α => decide (c.1 < m)) l hlength
      simp only [decide_eq_true_eq] at hm hn
      exact hm (Nat.lt_of_lt_of_le hn hnm)
    rw [max_eq_left hnm, hnone, List.append_nil]
  · rw [max_eq_right hmn]
    induction l with
    | nil => rfl
    | cons c l ih =>
      by_cases hc : c.1 < m
      · have hn : c.1 < n := Nat.lt_of_lt_of_le hc hmn
        simp [hc, hn, ih]
      · simp [hc]

theorem dropWhile_lt_max (m n : ℕ) (l : List (ℕ × α)) : l.dropWhile (fun c => c.1 < max m n) =
    (l.dropWhile fun c => c.1 < m).dropWhile fun c => c.1 < n := by
  have hsplit := List.takeWhile_append_dropWhile (p := fun c : ℕ × α => decide (c.1 < max m n)) (l := l)
  have hfirst := List.takeWhile_append_dropWhile (p := fun c : ℕ × α => decide (c.1 < m)) (l := l)
  have hthen := List.takeWhile_append_dropWhile (p := fun c : ℕ × α => decide (c.1 < n))
    (l := l.dropWhile fun c => c.1 < m)
  rw [takeWhile_lt_max, List.append_assoc] at hsplit
  exact List.append_cancel_left (List.append_cancel_left
    (hsplit.trans (hfirst.symm.trans (congrArg (_ ++ ·) hthen.symm))))

/-- In order of time, what is not written before some moment is written from then on. -/
theorem le_of_mem_dropWhile {m : ℕ} (hsorted : l.Pairwise fun c d => c.1 ≤ d.1)
    (hc : c ∈ l.dropWhile fun c => c.1 < m) : m ≤ c.1 := by
  induction l with
  | nil => cases hc
  | cons d l ih =>
    obtain ⟨hd, hl⟩ := List.pairwise_cons.mp hsorted
    by_cases hdm : d.1 < m
    · rw [List.dropWhile_cons_of_pos (by simpa using hdm)] at hc
      exact ih hl hc
    · rw [List.dropWhile_cons_of_neg (by simpa using hdm)] at hc
      rcases List.mem_cons.mp hc with rfl | hc
      · exact Nat.le_of_not_lt hdm
      · exact (Nat.le_of_not_lt hdm).trans (hd c hc)

end Written

/-! ## Courses -/

/-- A program writes in the course of time, and to no output after its end. -/
structure Timeline.Orderly (t : Timeline) : Prop where
  sorted : t.output.Pairwise fun c d => c.1 ≤ d.1
  closes : ∀ c ∈ t.output, ∀ time, t.closes c.2.1 = some time → c.1 ≤ time

namespace Watching

/-- The most urgent thing that a run finds ready. -/
def finds (config : Config) (now : ℕ) (cancelled : Bool) (w : Watching) : Option Happening :=
  let v := w.taking config now cancelled
  (v.watch.offers (v.ready config now cancelled)).head?

/-- The moment up to which a run has taken in what was written. -/
def reaches (config : Config) (now : ℕ) (cancelled : Bool) (w : Watching) (horizon : ℕ) : ℕ :=
  if cancelled || config.timeoutMs ≤ w.elapsed now then horizon else max horizon (w.elapsed now + 1)

/-- Up to which moment a run has taken in what was written, what it has found since its launch, what it has
passed on, and how it has ended, if it has. -/
inductive Course (config : Config) (timeline : Timeline) :
    ℕ → List Happening → List LogLine → Option Outcome → Stage → Prop
  | launch {now : ℕ} : Course config timeline 0 [] [] none (.watching (.launched now timeline))
  | step {horizon : ℕ} {found : List Happening} {ls : List LogLine} {w : Watching} {now : ℕ}
    {cancelled : Bool} {a : Action} {stage : Stage} (h : Course config timeline horizon found ls none (.watching w))
    (hstep : w.step config now cancelled = some (a, stage)) :
    Course config timeline (w.reaches config now cancelled horizon)
      (found ++ (w.finds config now cancelled).toList) (ls ++ a.lines) a.outcome? stage

variable {config : Config} {now : ℕ} {cancelled : Bool} {w : Watching} {h : Happening}

theorem exists_closes {o : Console} (h : w.isClosed now o = true) :
    ∃ time, w.timeline.closes o = some time ∧ time ≤ w.elapsed now := by
  unfold isClosed at h
  split at h
  · exact ⟨_, by assumption, of_decide_eq_true h⟩
  · cases h

/-- The next step of a run that is told to stop, or is out of time, is its last. -/
theorem ends_of_stopping (hstopping : cancelled = true ∨ config.timeoutMs ≤ w.elapsed now) :
    ∃ a o, w.step config now cancelled = some (a, .kept (now + config.retentionMs)) ∧
      a.outcome? = some o := by
  have hsame : w.taking config now cancelled = w := if_pos (by simpa using hstopping)
  obtain ⟨why, hturn⟩ : ∃ why, w.watch.turn (w.ready config now cancelled) = .stop why := by
    obtain ⟨why, hwhy⟩ : ∃ why, w.watch.turn (w.ready config now cancelled) = w.watch.stopFor why := by
      unfold Watch.turn
      by_cases hcancelled : cancelled = true
      · exact ⟨_, if_pos hcancelled⟩
      · refine ⟨_, (if_neg hcancelled).trans (if_pos ?_)⟩
        exact decide_eq_true (hstopping.resolve_left hcancelled)
    rw [hwhy, Watch.stopFor]
    cases w.watch.exited with
    | none => exact ⟨_, rfl⟩
    | some e => exact ⟨_, rfl⟩
  have hstep : w.step config now cancelled = w.act config now (.stop why) := by
    rw [step, hsame]
    exact congrArg _ hturn
  exact ⟨_, _, hstep, rfl⟩

end Watching

namespace Vigil

variable {config : Config} {timeline : Timeline} {horizon : ℕ} {found : List Happening} {ls : List LogLine}
  {w : Watching} {s : Vigil} {now elapsed : ℕ} {cancelled : Bool} {o : Console} {h : Happening} {a : Action}
  {stage : Stage}

/-- What the vigil of a run tells of it. -/
structure Tells (timeline : Timeline) (horizon : ℕ) (found : List Happening) (ls : List LogLine) (s : Vigil) :
    Prop where
  handled : s.handled = found
  heard : s.heard = ls
  written : Arrival.written s.history = (timeline.output.takeWhile fun c => c.1 < horizon).map Prod.snd
  ended : ∀ o, .ends o ∈ s.history → ∃ time, timeline.closes o = some time ∧ time < horizon

/-- The vigil of a run that still watches. -/
structure Follows (timeline : Timeline) (horizon : ℕ) (found : List Happening) (ls : List LogLine)
    (w : Watching) (s : Vigil) : Prop where
  tells : Tells timeline horizon found ls s
  run : s.run = w
  progress : s.progress = .watching
  program : w.timeline = timeline
  coming : w.tap.coming = timeline.output.dropWhile fun c => c.1 < horizon

theorem written_map_ofWritten (cs : List (ℕ × Console × List UInt8)) :
    Arrival.written (cs.map .ofWritten) = cs.map Prod.snd := by
  rw [Arrival.written, List.filterMap_map]
  exact List.filterMap_eq_map ▸ rfl

namespace Follows

theorem isDone (hf : Follows timeline horizon found ls w s) : s.isDone = false := by
  rw [Vigil.isDone, hf.progress]

/-- What has been written since is taken in. -/
theorem fill (config : Config) (hf : Follows timeline horizon found ls w s) (horderly : timeline.Orderly)
    (elapsed : ℕ) : ∃ s', Steps config s s' ∧ Follows timeline (max horizon (elapsed + 1)) found ls
      { w with tap := w.tap.fill (Watching.maxLine config) elapsed } s' := by
  have hundone := hf.isDone
  obtain ⟨⟨hhandled, hheard, hwritten, hended⟩, rfl, hprogress, hprogram, hcoming⟩ := hf
  have hdue : s.run.tap.due elapsed =
      (timeline.output.dropWhile fun c => c.1 < horizon).takeWhile fun c => c.1 < elapsed + 1 := by
    rw [Tap.due, hcoming]
    simp only [Nat.lt_succ_iff]
  have hopen : ∀ c ∈ s.run.tap.due elapsed, Arrival.ends c.2.1 ∉ s.history := by
    intro c hc hends
    obtain ⟨time, htime, hlt⟩ := hended _ hends
    rw [hdue] at hc
    have hdropped := (List.takeWhile_sublist _).mem hc
    have hlate := le_of_mem_dropWhile horderly.sorted hdropped
    have hearly := horderly.closes c ((List.dropWhile_sublist _).mem hdropped) time htime
    omega
  refine ⟨_, .single (@Step.fill config s s.run.tap.coming elapsed hundone hopen),
    ⟨hhandled, hheard, ?_, fun o hends => ?_⟩, rfl, hprogress, hprogram, ?_⟩
  · rw [takeWhile_lt_max, List.map_append, ← hwritten, ← hdue, ← written_map_ofWritten]
    exact List.filterMap_append
  · rcases List.mem_append.mp hends with hends | hends
    · obtain ⟨time, htime, hlt⟩ := hended o hends
      exact ⟨time, htime, Nat.lt_of_lt_of_le hlt (Nat.le_max_left _ _)⟩
    · obtain ⟨c, -, hc⟩ := List.mem_map.mp hends
      cases hc
  · rw [dropWhile_lt_max, ← hcoming]
    simp only [Nat.lt_succ_iff]
    exact Tap.coming_fill _

/-- The end of an output is taken in, once. -/
theorem flush (hf : Follows timeline horizon found ls w s) (hs : Sound config s) {time : ℕ}
    (htime : timeline.closes o = some time) (hlt : time < horizon) :
    ∃ s', Steps config s s' ∧ Follows timeline horizon found ls { w with tap := w.tap.flush o } s' ∧
      .ends o ∈ s'.history ∧ s.history ⊆ s'.history := by
  by_cases hends : .ends o ∈ s.history
  · refine ⟨s, .refl, ?_, hends, List.Subset.refl _⟩
    have hopened : w.tap.opened o = [] := by
      obtain ⟨-, hholds⟩ := hs.attends hf.progress
      rw [← hf.run, hholds.opened o]
      exact (Intake.onOutput_of_ended hs.ordered hends).1
    rw [Tap.flush_of_opened hopened]
    exact hf
  · refine ⟨_, .single (.close hf.isDone hends), ?_, by simp [Vigil.ended], List.subset_append_left _ _⟩
    obtain ⟨⟨hhandled, hheard, hwritten, hended⟩, rfl, hprogress, hprogram, hcoming⟩ := hf
    refine ⟨⟨hhandled, hheard, ?_, fun p hp => ?_⟩, rfl, hprogress, hprogram, ?_⟩
    · rw [Vigil.ended, Arrival.written, List.filterMap_append]
      exact (List.append_nil _).trans hwritten
    · rcases List.mem_append.mp hp with hp | hp
      · exact hended p hp
      · injection List.mem_singleton.mp hp with hpo
        exact ⟨time, hpo ▸ htime, hlt⟩
    · exact (Tap.coming_flush _ o).trans hcoming

theorem flushIf (hf : Follows timeline horizon found ls w s) (hs : Sound config s) (now : ℕ) (o : Console)
    (hlt : w.elapsed now < horizon) : ∃ s', Steps config s s' ∧ Follows timeline horizon found ls
      { w with tap := if w.isClosed now o then w.tap.flush o else w.tap } s' ∧
      (w.isClosed now o = true → .ends o ∈ s'.history) ∧ s.history ⊆ s'.history := by
  by_cases hclosed : w.isClosed now o = true
  · obtain ⟨time, htime, hle⟩ := Watching.exists_closes hclosed
    rw [hf.program] at htime
    obtain ⟨s', hsteps, hf', hends, hsub⟩ := hf.flush hs htime (by omega)
    rw [if_pos hclosed]
    exact ⟨s', hsteps, hf', fun _ => hends, hsub⟩
  · rw [if_neg hclosed]
    exact ⟨s, .refl, hf, fun h => absurd h hclosed, List.Subset.refl _⟩

/-- A run takes in what has been written, and which outputs have ended. -/
theorem filled (hf : Follows timeline horizon found ls w s) (hs : Sound config s) (horderly : timeline.Orderly)
    (now : ℕ) : ∃ s', Steps config s s' ∧ Follows timeline (max horizon (w.elapsed now + 1)) found ls
      { w with tap := w.filled config now } s' ∧ ∀ o, w.isClosed now o = true → .ends o ∈ s'.history := by
  have hlt : w.elapsed now < max horizon (w.elapsed now + 1) :=
    Nat.lt_of_lt_of_le (Nat.lt_succ_self _) (Nat.le_max_right _ _)
  obtain ⟨s₁, hfill, hf₁⟩ := hf.fill config horderly (w.elapsed now)
  obtain ⟨s₂, hout, hf₂, hclosed₂, -⟩ := hf₁.flushIf (hs.steps hfill) now .out hlt
  obtain ⟨s₃, herr, hf₃, hclosed₃, hsub⟩ := hf₂.flushIf ((hs.steps hfill).steps hout) now .err hlt
  refine ⟨s₃, (hfill.trans hout).trans herr, hf₃, fun o ho => ?_⟩
  cases o with
  | out => exact hsub (hclosed₂ ho)
  | err => exact hclosed₃ ho

theorem taking (hf : Follows timeline horizon found ls w s) (hs : Sound config s) (horderly : timeline.Orderly)
    (now : ℕ) (cancelled : Bool) : ∃ s', Steps config s s' ∧
      Follows timeline (w.reaches config now cancelled horizon) found ls (w.taking config now cancelled) s' ∧
      (w.finds config now cancelled = some .hangUp → s'.Meets .hangUp) := by
  by_cases hstopping : (cancelled || decide (config.timeoutMs ≤ w.elapsed now)) = true
  · have hsame : w.taking config now cancelled = w := if_pos hstopping
    rw [hsame, Watching.reaches, if_pos hstopping]
    refine ⟨s, .refl, hf, fun hh => ?_⟩
    -- one of the signals would be found
    obtain ⟨hcancelled, hdeadline, -⟩ := Watch.of_head?_hangUp hh
    rw [hsame] at hdeadline
    have hnone : (cancelled || decide (config.timeoutMs ≤ w.elapsed now)) = false :=
      Bool.or_eq_false_iff.mpr ⟨hcancelled, hdeadline⟩
    rw [hnone] at hstopping
    cases hstopping
  · have hfilled : w.taking config now cancelled = { w with tap := w.filled config now } := if_neg hstopping
    obtain ⟨s', hsteps, hf', hclosed⟩ := hf.filled hs horderly now
    rw [hfilled, Watching.reaches, if_neg hstopping]
    refine ⟨s', hsteps, hf', fun hh => ?_⟩
    obtain ⟨-, -, hhung⟩ := Watch.of_head?_hangUp hh
    rw [hfilled] at hhung
    simp only [Watching.ready, Bool.and_eq_true, List.isEmpty_iff] at hhung
    obtain ⟨⟨hout, herr⟩, hqueue⟩ := hhung
    refine ⟨fun o => hclosed o ?_, by rw [hf'.run]; exact hqueue⟩
    cases o with
    | out => exact hout
    | err => exact herr

end Follows

/-- The vigil goes on with the run, or it is done with it. -/
def Matches (timeline : Timeline) (horizon : ℕ) (found : List Happening) (ls : List LogLine) (s : Vigil) :
    Option Outcome → Stage → Prop
  | none, .watching w => Follows timeline horizon found ls w s
  | some o, _ => s.progress = .done o ∧ Tells timeline horizon found ls s
  | none, _ => False

/-- A run takes a turn at what it finds ready. -/
theorem Follows.turn (hf : Follows timeline horizon found ls w s) {r : Ready} (hmeets : s.Meets h)
    (hh : (w.watch.offers r).head? = some h) (hact : w.act config now (w.watch.turn r) = some (a, stage)) :
    ∃ s', Steps config s s' ∧ Matches timeline horizon (found ++ [h]) (ls ++ a.lines) s' a.outcome? stage := by
  obtain ⟨⟨rfl, rfl, hwritten, hended⟩, rfl, hprogress, hprogram, hcoming⟩ := hf
  cases hturn : s.run.watch.turn r with
  | wait =>
    rw [hturn] at hact
    cases hact
  | stop why =>
    rw [hturn] at hact
    obtain ⟨rfl, rfl⟩ := Prod.mk.inj (Option.some.inj hact)
    have hstop : Step config s _ := .stop hprogress hh hmeets hturn
    refine ⟨_, (ReflTransGen.single hstop).tail (.finish now rfl rfl rfl), rfl, ?_⟩
    exact ⟨rfl, rfl, hwritten, hended⟩
  | take l watch =>
    have hstep : Step config s _ := .turn now hprogress hh hmeets (by rw [hturn]; rfl)
    rw [hturn] at hact
    obtain ⟨rfl, rfl⟩ := Prod.mk.inj (Option.some.inj hact)
    exact ⟨_, .single hstep, ⟨rfl, rfl, hwritten, hended⟩, rfl, hprogress, hprogram, hcoming⟩
  | go watch =>
    have hstep : Step config s _ := .turn now hprogress hh hmeets (by rw [hturn]; rfl)
    rw [hturn] at hact
    obtain ⟨rfl, rfl⟩ := Prod.mk.inj (Option.some.inj hact)
    exact ⟨_, .single hstep, ⟨rfl, rfl, hwritten, hended⟩, rfl, hprogress, hprogram, hcoming⟩

theorem Follows.step (hf : Follows timeline horizon found ls w s) (hs : Sound config s)
    (horderly : timeline.Orderly) (hstep : w.step config now cancelled = some (a, stage)) :
    ∃ s', Steps config s s' ∧ Matches timeline (w.reaches config now cancelled horizon)
      (found ++ (w.finds config now cancelled).toList) (ls ++ a.lines) s' a.outcome? stage := by
  obtain ⟨s₁, htaken, hf₁, hhung⟩ := hf.taking hs horderly now cancelled
  cases hh : w.finds config now cancelled with
  | none =>
    have hwait : (w.taking config now cancelled).watch.turn
        ((w.taking config now cancelled).ready config now cancelled) = .wait := by
      rw [Watch.turn_eq]
      exact congrArg (Option.elim · Turn.wait _) hh
    rw [Watching.step, hwait] at hstep
    cases hstep
  | some h =>
    have hmeets : s₁.Meets h := by
      have hasked := Watch.asked_of_mem (List.mem_of_head? hh)
      cases hasked with
      | line _ hl =>
        rw [Meets, hf₁.run]
        exact hl
      | hangUp => exact hhung hh
      | _ => trivial
    obtain ⟨s₂, hturned, hmatches⟩ := hf₁.turn hmeets hh hstep
    exact ⟨s₂, htaken.trans hturned, hmatches⟩

/-! ## Whole runs -/

theorem vigil_of_course {ended : Option Outcome} (horderly : timeline.Orderly)
    (h : Watching.Course config timeline horizon found ls ended stage) :
    ∃ now s, Steps config (start now timeline) s ∧ Matches timeline horizon found ls s ended stage := by
  induction h with
  | @launch now =>
    refine ⟨now, start now timeline, .refl,
      ⟨rfl, rfl, ?_, fun o h => absurd h List.not_mem_nil⟩, rfl, rfl, rfl, ?_⟩
    · cases timeline.output <;> simp [start, Arrival.written]
    · cases h : timeline.output <;> simp [Watching.launched, h]
  | step _ hstep ih =>
    obtain ⟨now, s, hsteps, hmatches⟩ := ih
    have hs := (sound_start now timeline).steps hsteps
    obtain ⟨s', hstepped, hmatches'⟩ := Follows.step hmatches hs horderly hstep
    exact ⟨now, s', hsteps.trans hstepped, hmatches'⟩

/-- After the end of both outputs everything has been taken in. -/
theorem Tells.written_of_ended (ht : Tells timeline horizon found ls s) (horderly : timeline.Orderly)
    (hended : ∀ o, .ends o ∈ s.history) : Arrival.written s.history = timeline.output.map Prod.snd := by
  rw [ht.written]
  refine congrArg (List.map Prod.snd) (List.takeWhile_eq_self_iff.mpr fun c hc => decide_eq_true ?_)
  obtain ⟨time, htime, hlt⟩ := ht.ended c.2.1 (hended c.2.1)
  exact Nat.lt_of_le_of_lt (horderly.closes c hc time htime) hlt

/-- The run has come to its end as a vigil has in which just that came in which the program had written by the
last moment at which the run looked. -/
structure Watched (config : Config) (timeline : Timeline) (horizon : ℕ) (found : List Happening)
    (ls : List LogLine) (o : Outcome) (s : Vigil) : Prop where
  reached : ∃ now, Steps config (start now timeline) s
  done : s.progress = .done o
  handled : s.handled = found
  heard : s.heard = ls
  written : Arrival.written s.history = (timeline.output.takeWhile fun c => c.1 < horizon).map Prod.snd
  /-- All that the program ever writes, if the output was seen to end. -/
  hungUp (hhung : .hangUp ∈ found) : Arrival.written s.history = timeline.output.map Prod.snd
  vigilant : ∃ notice, Vigilant config s o notice

/-- A program that writes one line and begins another, and goes on without an end. -/
def unfinished : Timeline := ⟨[(0, .out, [97, 10, 98])], none, fun _ => none⟩

/-- Its run after the line. -/
def begun : Watching := { Watching.launched 0 unfinished with tap := ⟨[], [98], [], []⟩ }

theorem step_unfinished :
    (Watching.launched 0 unfinished).step {} 0 false = some (.log ⟨.stdout, "a"⟩, .watching begun) := by
  have hchunks : Lines.arrivals [97, 10, 98] = [[97, 10, 98]] := by
    rw [Lines.arrivals, Lines.cut]
    rfl
  have hfed : Lines.feedAll (Watching.maxLine {}) [] [[97, 10, 98]] = ([⟨[97], true⟩], [98]) := by decide
  have htext : Lines.Piece.text ⟨[97], true⟩ = "a" := by decide +kernel
  have hfilled : (Watching.launched 0 unfinished).filled {} 0 = ⟨[], [98], [], [⟨.stdout, "a"⟩]⟩ := by
    simp [Watching.filled, Watching.launched, Watching.elapsed, Watching.isClosed, Tap.fill, Tap.pour,
      Tap.opened, Tap.setOpened, Tap.enqueue, Tap.lines, streamOf, unfinished, hchunks, hfed, htext]
  have htaken : (Watching.launched 0 unfinished).taking {} 0 false =
      { Watching.launched 0 unfinished with tap := ⟨[], [98], [], [⟨.stdout, "a"⟩]⟩ } := by
    rw [← hfilled]
    rfl
  rw [Watching.step, htaken]
  rfl

theorem step_begun : begun.step {} 0 true =
    some (.finish [⟨.stdout, "b"⟩, ⟨.system, "cancelled"⟩] ⟨none, .cancelled⟩, .kept 300000) := by
  have hlast : begun.lastLines (some .cancelled) = [⟨.stdout, "b"⟩, ⟨.system, "cancelled"⟩] := by
    decide +kernel
  exact congrArg (fun ls => some (Action.finish ls ⟨none, .cancelled⟩, Stage.kept 300000)) hlast

end Vigil

end Flowline.Simulation
