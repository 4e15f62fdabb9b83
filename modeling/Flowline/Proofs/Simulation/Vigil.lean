import Flowline.Proofs.Lines.Taps
import Flowline.Proofs.Simulation.Turns

/-!
# Watching, whatever happens when

`Vigil.Step` says what may happen while a program is watched: bytes come in, outputs end, and at any moment
the runner takes a turn at what it finds ready, whatever that is, until it stops and says its last
lines.  What the tap takes in, what a turn comes to and which lines are the last are those of a run:
`Tap.fill`, `Tap.flush`, `Watching.act`.  By induction on the steps the lines that were passed on and those
that wait are together all that have come in, each once and in their order (`Sound`); so a vigil that is
done has passed on all of them (`Vigilant`).
-/

namespace Flowline.Simulation

open Relation Shell

/-! ## Vigils -/

inductive Progress
  | watching
  /-- The runner stops, and has yet to take what lines are left. -/
  | stopping (why : Stop)
  | done (o : Outcome)

/-- A run that watches a program, and what can be told of it. -/
structure Vigil where
  run : Watching
  /-- What has come out of the program. -/
  history : List Arrival
  progress : Progress
  /-- What turns were taken at. -/
  handled : List Happening
  /-- The lines that were passed on. -/
  heard : List LogLine

namespace Action

/-- The lines that an action passes on. -/
def lines : Action → List LogLine
  | .log l => [l]
  | .finish last _ => last
  | _ => []

def outcome? : Action → Option Outcome
  | .finish _ o => some o
  | _ => none

end Action

namespace Vigil

variable {config : Config} {s s' : Vigil} {w : Watching} {r : Ready} {h : Happening} {why : Stop} {o : Outcome}
  {notice : Option Notice} {now elapsed : ℕ} {coming : List (ℕ × Console × List UInt8)} {a : Action}
  {stage : Stage}

def start (now : ℕ) (timeline : Timeline) : Vigil := ⟨.launched now timeline, [], .watching, [], []⟩

def isDone (s : Vigil) : Bool :=
  match s.progress with
  | .done _ => true
  | _ => false

/-- The vigil once the tap has taken in what has come in by some moment. -/
def filled (config : Config) (coming : List (ℕ × Console × List UInt8)) (elapsed : ℕ) (s : Vigil) : Vigil :=
  let t := { s.run.tap with coming }
  { s with
    run := { s.run with tap := t.fill (Watching.maxLine config) elapsed }
    history := s.history ++ (t.due elapsed).map .ofWritten }

/-- The vigil at the end of an output. -/
def ended (o : Console) (s : Vigil) : Vigil :=
  { s with run := { s.run with tap := s.run.tap.flush o }, history := s.history ++ [.ends o] }

/-- The end of the output is found behind all lines, and after both outputs have ended. -/
def Meets (s : Vigil) : Happening → Prop
  | .line l => s.run.tap.queue.head? = some l
  | .hangUp => (∀ o, .ends o ∈ s.history) ∧ s.run.tap.queue = []
  | _ => True

/-- Which signals a turn finds ready, and whether it finds the exit, is left open: they may come about at any
time and in any order, also several at once. -/
inductive Step (config : Config) : Vigil → Vigil → Prop
  | fill {s : Vigil} {coming : List (ℕ × Console × List UInt8)} {elapsed : ℕ} (hat : s.isDone = false)
    (hopen : ∀ c ∈ Tap.due { s.run.tap with coming } elapsed, .ends c.2.1 ∉ s.history) :
    Step config s (s.filled config coming elapsed)
  | close {s : Vigil} {o : Console} (hat : s.isDone = false) (hopen : .ends o ∉ s.history) :
    Step config s (s.ended o)
  | turn {s : Vigil} {r : Ready} {h : Happening} (now : ℕ) {a : Action} {w : Watching}
    (hat : s.progress = .watching) (hh : (s.run.watch.offers r).head? = some h) (hmeets : s.Meets h)
    (hact : s.run.act config now (s.run.watch.turn r) = some (a, .watching w)) :
    Step config s { s with run := w, handled := s.handled ++ [h], heard := s.heard ++ a.lines }
  | stop {s : Vigil} {r : Ready} {h : Happening} {why : Stop} (hat : s.progress = .watching)
    (hh : (s.run.watch.offers r).head? = some h) (hmeets : s.Meets h)
    (hturn : s.run.watch.turn r = .stop why) :
    Step config s { s with progress := .stopping why, handled := s.handled ++ [h] }
  | finish {s : Vigil} {why : Stop} (now : ℕ) {a : Action} {o : Outcome} {stage : Stage}
    (hat : s.progress = .stopping why) (hact : s.run.act config now (.stop why) = some (a, stage))
    (ho : a.outcome? = some o) : Step config s { s with progress := .done o, heard := s.heard ++ a.lines }

abbrev Steps (config : Config) : Vigil → Vigil → Prop := ReflTransGen (Step config)

/-! ## What holds at every moment -/

/-- What has come in. -/
def intake (config : Config) (s : Vigil) : Intake := .of (Watching.maxLine config) s.history

/-- All lines that have come in, with those that are open at the end. -/
def lines (config : Config) (s : Vigil) : List LogLine :=
  (Intake.closed (Watching.maxLine config) s.history).lines

/-- Why the runner is where it is, and where the lines are that have come in. -/
inductive Stands (config : Config) (s : Vigil) : Progress → Prop
  | watching (hw : Watch.Attends s.run.watch s.handled)
    (hholds : s.run.tap.Holds s.heard (s.intake config)) : Stands config s .watching
  | stopping {why : Stop} (hends : Watch.Ends s.handled why)
    (hholds : s.run.tap.Holds s.heard (s.intake config)) : Stands config s (.stopping why)
  | done {why : Stop} (hends : Watch.Ends s.handled why)
    (hheard : s.heard = s.lines config ++ (why.outcome config.timeoutMs).2.toList.map Notice.line) :
    Stands config s (.done (why.outcome config.timeoutMs).1)

structure Sound (config : Config) (s : Vigil) : Prop where
  stands : Stands config s s.progress
  ordered : s.history.Pairwise Arrival.MayPrecede
  /-- The end of the output is not seen before it, nor before the last line has been taken. -/
  hungUp : .hangUp ∈ s.handled → (∀ o, .ends o ∈ s.history) ∧ s.run.tap.queue = []

theorem sound_start (now : ℕ) (timeline : Timeline) : Sound config (start now timeline) where
  stands := .watching Watch.attends_start ⟨fun o => by cases o <;> rfl, rfl⟩
  ordered := .nil
  hungUp h := absurd h List.not_mem_nil

theorem intake_filled (coming : List (ℕ × Console × List UInt8)) (elapsed : ℕ) (s : Vigil) :
    (s.filled config coming elapsed).intake config =
      ((Tap.due { s.run.tap with coming } elapsed).map .ofWritten).foldl
        (Intake.after (Watching.maxLine config)) (s.intake config) :=
  Intake.of_append _ _

theorem intake_ended (o : Console) (s : Vigil) :
    (s.ended o).intake config = (s.intake config).after (Watching.maxLine config) (.ends o) :=
  Intake.of_concat _ _

/-- What comes in is added to the lines that wait. -/
theorem Stands.arrive {p : Progress} (hs : Stands config s p) (hp : ∀ o, p ≠ .done o)
    (hwatch : s'.run.watch = s.run.watch) (hhandled : s'.handled = s.handled)
    (hholds : s.run.tap.Holds s.heard (s.intake config) → s'.run.tap.Holds s'.heard (s'.intake config)) :
    Stands config s' p := by
  cases hs with
  | watching hw h => exact .watching (hwatch ▸ hhandled ▸ hw) (hholds h)
  | stopping hends h => exact .stopping (hhandled ▸ hends) (hholds h)
  | done => exact absurd rfl (hp _)

theorem ne_done_of_isDone (hat : s.isDone = false) (o : Outcome) : s.progress ≠ .done o := by
  intro hdone
  rw [isDone, hdone] at hat
  cases hat

theorem Sound.attends (hs : Sound config s) (hat : s.progress = .watching) :
    Watch.Attends s.run.watch s.handled ∧ s.run.tap.Holds s.heard (s.intake config) := by
  have hstands := hs.stands
  rw [hat] at hstands
  cases hstands with
  | watching hw hholds => exact ⟨hw, hholds⟩

/-- A run that goes on after a turn has taken the line, or has seen something new. -/
theorem act_cases {run : Watching} {turn : Turn} (hact : run.act config now turn = some (a, .watching w)) :
    (∃ l watch, turn = .take l watch ∧ a = .log l ∧
      w = { run with watch, tap := { run.tap with queue := run.tap.queue.drop 1 } }) ∨
    ∃ watch drain, turn = .go watch ∧ a = .nothing ∧ w = { run with watch, drain } := by
  cases turn with
  | wait => cases hact
  | take l watch =>
    obtain ⟨rfl, hw⟩ := Prod.mk.inj (Option.some.inj hact)
    exact Or.inl ⟨l, watch, rfl, rfl, (Stage.watching.inj hw).symm⟩
  | go watch =>
    obtain ⟨rfl, hw⟩ := Prod.mk.inj (Option.some.inj hact)
    exact Or.inr ⟨watch, _, rfl, rfl, (Stage.watching.inj hw).symm⟩
  | stop why =>
    cases (Prod.mk.inj (Option.some.inj hact)).2

namespace Sound

theorem fill (hs : Sound config s) (hat : s.isDone = false)
    (hopen : ∀ c ∈ Tap.due { s.run.tap with coming } elapsed, .ends c.2.1 ∉ s.history) :
    Sound config (s.filled config coming elapsed) where
  stands := hs.stands.arrive (ne_done_of_isDone hat) rfl rfl fun hholds => by
    rw [intake_filled]
    exact (hholds.coming coming).fill _ elapsed
  ordered := by
    refine List.pairwise_append.mpr ⟨hs.ordered, ?_, ?_⟩
    · refine List.pairwise_map.mpr (List.pairwise_of_forall fun c d o bs hc => ?_)
      cases hc
    · rintro b hb c hc o bs rfl hbytes
      obtain ⟨d, hd, rfl⟩ := List.mem_map.mp hc
      injection hbytes with ho
      exact hopen d hd (ho ▸ hb)
  hungUp hhung := by
    obtain ⟨hended, hqueue⟩ := hs.hungUp hhung
    have hdue : Tap.due { s.run.tap with coming } elapsed = [] :=
      List.eq_nil_iff_forall_not_mem.mpr fun c hc => hopen c hc (hended c.2.1)
    refine ⟨fun o => List.mem_append_left _ (hended o), ?_⟩
    rw [filled]
    dsimp only
    rw [Tap.queue_fill, hdue, hqueue]
    rfl

theorem close {o : Console} (hs : Sound config s) (hat : s.isDone = false) (hopen : .ends o ∉ s.history) :
    Sound config (s.ended o) where
  stands := hs.stands.arrive (ne_done_of_isDone hat) rfl rfl fun hholds => by
    rw [intake_ended]
    exact hholds.flush _ o
  ordered := Arrival.pairwise_concat hs.ordered (by simp)
  hungUp hhung := absurd ((hs.hungUp hhung).1 o) hopen

/-- The end of the output stays where it was seen. -/
theorem hungUp_concat (hs : Sound config s) (hmeets : s.Meets h) (hhung : .hangUp ∈ s.handled ++ [h]) :
    (∀ o, .ends o ∈ s.history) ∧ s.run.tap.queue = [] := by
  rcases List.mem_append.mp hhung with hbefore | hnow
  · exact hs.hungUp hbefore
  · rw [← List.mem_singleton.mp hnow] at hmeets
    exact hmeets

theorem turn (hs : Sound config s) (hat : s.progress = .watching)
    (hh : (s.run.watch.offers r).head? = some h) (hmeets : s.Meets h)
    (hact : s.run.act config now (s.run.watch.turn r) = some (a, .watching w)) :
    Sound config { s with run := w, handled := s.handled ++ [h], heard := s.heard ++ a.lines } := by
  obtain ⟨hw, hholds⟩ := hs.attends hat
  have hasked := Watch.asked_of_mem (List.mem_of_head? hh)
  have hleads := hw.turned hasked
  rw [Watch.turn_of_head? hh] at hact
  rcases act_cases hact with ⟨l, watch, hturn, rfl, rfl⟩ | ⟨watch, drain, hturn, rfl, rfl⟩
  · rw [hturn] at hleads
    obtain rfl := Watch.eq_line_of_handle hturn
    have hlistening : s.run.watch.listening = true := by
      cases hasked with
      | line hlistening _ => exact hlistening
    refine ⟨?_, hs.ordered, fun hhung => ?_⟩
    · rw [hat]
      exact .watching hleads (hholds.take hmeets)
    · have hbefore : .hangUp ∈ s.handled := by simpa using hhung
      exact absurd hbefore (hw.listening.mp hlistening)
  · rw [hturn] at hleads
    refine ⟨?_, hs.ordered, hs.hungUp_concat hmeets⟩
    rw [hat]
    refine .watching hleads ?_
    have hsame : s.heard ++ Action.nothing.lines = s.heard := List.append_nil _
    rw [hsame]
    exact hholds

theorem stop (hs : Sound config s) (hat : s.progress = .watching)
    (hh : (s.run.watch.offers r).head? = some h) (hmeets : s.Meets h)
    (hturn : s.run.watch.turn r = .stop why) :
    Sound config { s with progress := .stopping why, handled := s.handled ++ [h] } := by
  obtain ⟨hw, hholds⟩ := hs.attends hat
  have hleads := hw.turned (Watch.asked_of_mem (List.mem_of_head? hh))
  rw [← Watch.turn_of_head? hh, hturn] at hleads
  exact ⟨.stopping hleads hholds, hs.ordered, hs.hungUp_concat hmeets⟩

/-- The last lines are those that wait, and those that are open. -/
theorem finish (hs : Sound config s) (hat : s.progress = .stopping why)
    (hact : s.run.act config now (.stop why) = some (a, stage)) (ho : a.outcome? = some o) :
    Sound config { s with progress := .done o, heard := s.heard ++ a.lines } := by
  have hstands := hs.stands
  rw [hat] at hstands
  cases hstands with
  | stopping hends hholds =>
    obtain ⟨rfl, -⟩ := Prod.mk.inj (Option.some.inj hact)
    obtain rfl := Option.some.inj ho
    have hflushed := (hholds.flush (Watching.maxLine config) .out).flush (Watching.maxLine config) .err
    refine ⟨.done hends ?_, hs.ordered, hs.hungUp⟩
    calc s.heard ++ s.run.lastLines (why.outcome config.timeoutMs).2
        = s.heard ++ ((s.run.tap.flush .out).flush .err).queue ++
            (why.outcome config.timeoutMs).2.toList.map Notice.line := (List.append_assoc _ _ _).symm
      _ = s.lines config ++ (why.outcome config.timeoutMs).2.toList.map Notice.line := by
        rw [hflushed.lines, lines, Intake.closed, Intake.of_append]
        rfl

theorem step (hs : Sound config s) (h : Step config s s') : Sound config s' := by
  cases h with
  | fill hat hopen => exact hs.fill hat hopen
  | close hat hopen => exact hs.close hat hopen
  | turn _ hat hh hmeets hact => exact hs.turn hat hh hmeets hact
  | stop hat hh hmeets hturn => exact hs.stop hat hh hmeets hturn
  | finish _ hat hact ho => exact hs.finish hat hact ho

theorem steps (hs : Sound config s) (h : Steps config s s') : Sound config s' := by
  induction h with
  | refl => exact hs
  | tail _ hstep ih => exact ih.step hstep

end Sound

/-! ## What can be said of a vigil that is done -/

/-- The outcome follows from the turns that were taken, and no line was lost. -/
structure Vigilant (config : Config) (s : Vigil) (o : Outcome) (notice : Option Notice) : Prop where
  /-- The program exited exactly if that was seen before a turn at a signal. -/
  exited : o.reason = .exited ↔ ∃ before e after,
    s.handled = before ++ .exit e :: after ∧ .cancellation ∉ before ∧ .deadline ∉ before
  /-- It is told how it ended. -/
  exit {e : Exit} (he : .exit e ∈ s.handled) : (Stop.exited e).outcome config.timeoutMs = (o, notice)
  cancelled : o.reason = .cancelled ↔ s.handled.getLast? = some .cancellation ∧ ∀ e, .exit e ∉ s.handled
  timedOut : o.reason = .timedOut ↔ s.handled.getLast? = some .deadline ∧ ∀ e, .exit e ∉ s.handled
  drained (hdrained : .drained ∈ s.handled) : o.reason = .exited
  /-- A turn at a signal is the last one. -/
  signal {before after : List Happening} {h : Happening} (hsplit : s.handled = before ++ h :: after)
    (hsignal : Watch.IsSignal h) : after = []
  /-- All lines that have come in were passed on, each once and in their order, and then the notice, if there
  is any. -/
  heard : s.heard = s.lines config ++ notice.toList.map Notice.line
  output : ∀ l ∈ s.lines config, l.isOutput = true
  /-- The lines of an output are what its bytes are cut into. -/
  pieces (c : Console) : Tap.onOutput c (s.lines config) =
    Tap.lines c (Lines.pieces (Watching.maxLine config) (Arrival.chunksOn c s.history))
  /-- No byte is lost. -/
  conserved (hword : config.maxOutputBytes + 1 < UInt64.size) (c : Console) :
    Lines.Conserved (Watching.maxLine config) (Arrival.bytesOn c s.history)
      (Lines.pieces (Watching.maxLine config) (Arrival.chunksOn c s.history))
  /-- If the output was seen to end, nothing was left that could come in. -/
  hungUp (hhung : .hangUp ∈ s.handled) : (∀ c, .ends c ∈ s.history) ∧
    s.heard = (s.intake config).lines ++ notice.toList.map Notice.line

theorem Sound.vigilant (hs : Sound config s) (hat : s.progress = .done o) :
    ∃ notice, Vigilant config s o notice := by
  have hstands := hs.stands
  rw [hat] at hstands
  obtain ⟨why, hends, ho, hheard⟩ : ∃ why, Watch.Ends s.handled why ∧ (why.outcome config.timeoutMs).1 = o ∧
      s.heard = s.lines config ++ (why.outcome config.timeoutMs).2.toList.map Notice.line := by
    cases hstands with
    | done hends hheard => exact ⟨_, hends, rfl, hheard⟩
  subst ho
  refine ⟨(why.outcome config.timeoutMs).2, ?_⟩
  exact {
    exited := Stop.reason_eq_exited_iff.trans hends.exited_iff
    exit := fun he => by rw [← hends.exit_iff.mp he]
    cancelled := Stop.reason_eq_cancelled_iff.trans (hends.signal_iff (Or.inl ⟨rfl, rfl⟩))
    timedOut := Stop.reason_eq_timedOut_iff.trans (hends.signal_iff (Or.inr ⟨rfl, rfl⟩))
    drained := fun hdrained => Stop.reason_eq_exited_iff.mpr (hends.exited_of_drained hdrained)
    signal := hends.eq_nil_of_isSignal
    heard := hheard
    output := Intake.isOutput_of _
    pieces := Intake.onOutput_closed hs.ordered
    conserved := fun hword c => by
      have hpos : 0 < Watching.maxLine config := Nat.lt_of_lt_of_le Nat.zero_lt_one (Nat.le_max_right _ _)
      have hmax : Watching.maxLine config + 1 < UInt64.size := by
        have hone : 1 + 1 < UInt64.size := by decide
        rw [Watching.maxLine, Lines.bound]
        omega
      exact conserved_chunksOn hpos hmax c s.history
    hungUp := fun hhung => by
      have hended := (hs.hungUp hhung).1
      refine ⟨hended, ?_⟩
      rw [hheard, lines, Intake.lines_closed_of_ended hs.ordered hended]
      rfl }

/-- However far a vigil has come, a cancellation ends it. -/
theorem exists_done (config : Config) (s : Vigil) : ∃ s' o, Steps config s s' ∧ s'.progress = .done o := by
  have hstopping : ∀ {t : Vigil} {why : Stop}, Steps config s t → t.progress = .stopping why →
      ∃ s' o, Steps config s s' ∧ s'.progress = .done o := fun hsteps hat =>
    ⟨_, _, hsteps.tail (.finish 0 hat rfl rfl), rfl⟩
  cases hprogress : s.progress with
  | watching =>
    obtain ⟨why, hturn⟩ : ∃ why, s.run.watch.stopFor .cancelled = .stop why := by
      rw [Watch.stopFor]
      cases s.run.watch.exited with
      | none => exact ⟨_, rfl⟩
      | some e => exact ⟨_, rfl⟩
    have hstop : Step config s _ := .stop (r := ⟨true, false, none, false, none, false⟩) (h := .cancellation)
      hprogress rfl trivial hturn
    exact hstopping (.single hstop) rfl
  | stopping why => exact hstopping .refl hprogress
  | done o => exact ⟨s, o, .refl, hprogress⟩

end Vigil

end Flowline.Simulation
