import Flowline.Proofs.Simulation.Account
import Flowline.Simulation.Schedule

/-!
# Log, topic and outcome agree

What the account of a session says to those who compare what they have heard with what they look up:
before the end it is the log but for the line that was recorded last, and then it is the log with one
end, which tells how the session has ended.
-/

namespace Flowline.Simulation

open Relation

/-! ## What a run does at once -/

namespace Hub

variable {w : Hub} {id p : String} {k : ℕ}

theorem steps_log (hid : w.runs.get? id = some ⟨p, k, .running⟩) (lines : List LogLine) :
    ∃ w', ReflTransGen Step w w' ∧ w'.runner = lines.foldl (·.append id ·) w.runner ∧
      w'.runs.get? id = some ⟨p, k, .running⟩ := by
  induction lines generalizing w with
  | nil => exact ⟨w, ReflTransGen.refl, rfl, hid⟩
  | cons l lines ih =>
    obtain ⟨w₁, hsteps₁, hrunner₁, hid₁⟩ := steps_append hid l
    obtain ⟨w₂, hsteps₂, hrunner₂, hid₂⟩ := ih hid₁
    refine ⟨w₂, hsteps₁.trans hsteps₂, ?_, hid₂⟩
    rw [hrunner₂, hrunner₁, List.foldl_cons]

/-- A session that a run completes has the outcome. -/
theorem Valid.outcome_complete (hv : w.Valid) (hid : w.runs.get? id = some ⟨p, k, .running⟩)
    (o : Outcome) : ∃ s, (w.runner.complete id o).session? id = some s ∧ s.outcome = some o := by
  obtain ⟨entry, hentry, -, hstatus⟩ := hv.entry hid
  have hlive : entry.session.status.isTerminal = false := by rw [hstatus]; rfl
  have hsession : (w.runner.finish id o).2.session? id = some (entry.session.finish o).2 := by
    rw [Runner.finish, Runner.update_eq hentry, Runner.session?, Table.get?_insert_self]
    rfl
  refine ⟨(entry.session.finish o).2, ?_, ?_⟩
  · simp only [Runner.complete, hsession, Runner.session?_publish?, Runner.session?_release]
  · rw [Session.finish, if_neg (by simp [hlive])]

end Hub

/-! ## Accounts that come about -/

/-- A runner, and what the topic of one session has accepted since the runner was made. -/
structure Account where
  hub : Hub
  told : List Event

namespace Account

/-- A step of the runner, with what is accepted in it. -/
def Step (id : String) (a b : Account) : Prop :=
  Hub.Step a.hub b.hub ∧ b.told = a.told ++ a.hub.accepted b.hub id

/-- The accounts that come about. -/
def Reachable (config : Config) (id : String) (a : Account) : Prop :=
  ReflTransGen (Step id) ⟨Hub.init config, []⟩ a

variable {a b : Account} {id : String} {config : Config}

theorem step_of_hub {w : Hub} (h : Hub.Step a.hub w) :
    Step id a ⟨w, a.told ++ a.hub.accepted w id⟩ := ⟨h, rfl⟩

/-- Account is kept of all steps. -/
theorem exists_steps {w : Hub} (h : ReflTransGen Hub.Step a.hub w) :
    ∃ b, ReflTransGen (Step id) a b ∧ b.hub = w := by
  induction h with
  | refl => exact ⟨a, ReflTransGen.refl, rfl⟩
  | @tail w w' _ hstep ih =>
    obtain ⟨b, hsteps, rfl⟩ := ih
    exact ⟨_, hsteps.tail (step_of_hub hstep), rfl⟩

theorem exists_reachable {w : Hub} (h : Hub.Reachable config w) (id : String) :
    ∃ a, Reachable config id a ∧ a.hub = w :=
  exists_steps (a := ⟨Hub.init config, []⟩) h

theorem accounts_of_reachable (h : Reachable config id a) :
    a.hub.Valid ∧ a.hub.Accounts id a.told := by
  induction h with
  | refl => exact ⟨Hub.valid_init config, Hub.accounts_init config id⟩
  | tail _ hstep ih =>
    obtain ⟨hv, haccounts⟩ := ih
    obtain ⟨hstep, htold⟩ := hstep
    rw [htold]
    exact ⟨hv.step hstep, haccounts.step hv hstep⟩

theorem told_of_announced {e : Event} (h : Announced a.hub.runs id e)
    (hsteps : ReflTransGen (Step id) a b) : b.told = a.told ∧ Announced b.hub.runs id e := by
  induction hsteps with
  | refl => exact ⟨rfl, h⟩
  | tail _ hstep ih =>
    obtain ⟨htold, hannounced⟩ := ih
    obtain ⟨haccepted, hannounced⟩ := Hub.accepted_of_announced hannounced hstep.1
    rw [hstep.2, haccepted, List.append_nil]
    exact ⟨htold, hannounced⟩

/-! ## What users may rely on -/

/-- The log of a session, its topic and its outcome agree. -/
structure Agrees (id : String) (a : Account) : Prop where
  /-- While its topic is open, this has sent what is accounted for. -/
  sent : ∀ topic, a.hub.runner.channel.topics.get? id = some topic →
    ∃ ring, a.hub.runner.channel.rings[topic.ring]? = some ring ∧ ring.sent = a.told.toArray
  /-- Until its end is announced, its log has been published but for a line that was just recorded. -/
  lines : ∀ run s, a.hub.runs.get? id = some run → a.hub.runner.session? id = some s →
    run.phase.announced? = none → ∃ last : Option Event, s.events = a.told ++ last.toList ∧
      ∀ e, last = some e → run.phase = .recorded (some e)
  /-- Then its log has been published, and one end, which tells its status, exit code and reason. -/
  ended : ∀ e s, Announced a.hub.runs id e → a.hub.runner.session? id = some s →
    s.ToldBy e ∧ a.told = s.events ++ [e]
  /-- Nothing more is published. -/
  final : ∀ e, Announced a.hub.runs id e → ∀ b, ReflTransGen (Step id) a b → b.told = a.told
  /-- A run gets there from wherever it is, whatever lines and whatever outcome it has. -/
  driven : ∀ run, a.hub.runs.get? id = some run → run.phase = .running → ∀ lines o,
    ∃ b, ReflTransGen (Step id) a b ∧
      b.hub.runner = Schedule.apply id a.hub.runner (.finish lines o) ∧
      ∃ s, b.hub.runner.session? id = some s ∧ s.outcome = some o ∧
        b.told = s.events ++ [.complete o.success o.exitCode o.reason]

theorem sent_of_accounts {topic : Topic} (h : a.hub.Accounts id a.told)
    (htopic : a.hub.runner.channel.topics.get? id = some topic) :
    ∃ ring, a.hub.runner.channel.rings[topic.ring]? = some ring ∧ ring.sent = a.told.toArray :=
  ⟨_, (h.topic topic htopic).holds.ring, rfl⟩

/-- What is missing is only what was recorded last. -/
theorem lines_of_accounts {run : Launch} {s : Session} (hv : a.hub.Valid)
    (h : a.hub.Accounts id a.told) (hrun : a.hub.runs.get? id = some run)
    (hs : a.hub.runner.session? id = some s) (hbefore : run.phase.announced? = none) :
    ∃ last : Option Event, s.events = a.told ++ last.toList ∧
      ∀ e, last = some e → run.phase = .recorded (some e) := by
  obtain ⟨p, k, phase⟩ := run
  obtain ⟨entry, hentry, rfl⟩ := Runner.session?_eq_some_iff.mp hs
  have hstory := h.story _ _ hrun hs
  have hshows := hv.entry hrun
  rw [hentry] at hshows
  cases phase with
  | opening => cases hshows
  | entering => cases hshows
  | gone e => cases hshows
  | running =>
    obtain ⟨_, ⟨⟩, -, hstatus⟩ := hshows
    rw [Session.story_of_running hstatus] at hstory
    exact ⟨none, hstory.symm, nofun⟩
  | recorded e =>
    obtain ⟨⟨_, ⟨⟩, -, hstatus⟩, -⟩ := hshows
    rw [Session.story_of_running hstatus] at hstory
    refine ⟨e, hstory.symm, ?_⟩
    rintro event rfl
    rfl
  | finished e =>
    obtain ⟨_, ⟨⟩, -, hended⟩ := hshows
    rw [hended.story] at hstory
    exact ⟨none, by simpa [Phase.pending] using hstory.symm, nofun⟩
  | released e =>
    obtain ⟨_, ⟨⟩, -, hended⟩ := hshows
    rw [hended.story] at hstory
    exact ⟨none, by simpa [Phase.pending] using hstory.symm, nofun⟩
  | announced e =>
    obtain ⟨_, ⟨⟩, -, _, -, -, rfl⟩ := hshows
    cases hbefore
  | closed e =>
    obtain ⟨_, ⟨⟩, -, _, -, -, rfl⟩ := hshows
    cases hbefore

/-- What was announced ends the story. -/
theorem ended_of_accounts {e : Event} {s : Session} (hv : a.hub.Valid)
    (h : a.hub.Accounts id a.told) (hannounced : Announced a.hub.runs id e)
    (hs : a.hub.runner.session? id = some s) : s.ToldBy e ∧ a.told = s.events ++ [e] := by
  have htoldBy := hv.toldBy_of_announced hannounced hs
  refine ⟨htoldBy, ?_⟩
  obtain ⟨run, hrun, hphase⟩ := hannounced
  have hpending : run.phase.pending = [] := by
    cases hcase : run.phase with
    | announced event => rfl
    | closed event => rfl
    | gone event => rfl
    | _ =>
      rw [hcase] at hphase
      cases hphase
  have hstory := h.story run s hrun hs
  rw [hpending, List.append_nil, Session.story_of_toldBy htoldBy] at hstory
  exact hstory

/-- Whatever happens between the lines of a run, what its topic accepts is the log of the session, line
by line, and then its end. -/
theorem agrees_of_reachable (h : Reachable config id a) : a.Agrees id := by
  obtain ⟨hv, haccounts⟩ := accounts_of_reachable h
  constructor
  case sent => exact fun topic htopic => sent_of_accounts haccounts htopic
  case lines => exact fun run s hrun hs hbefore => lines_of_accounts hv haccounts hrun hs hbefore
  case ended => exact fun e s hannounced hs => ended_of_accounts hv haccounts hannounced hs
  case final => exact fun e hannounced b hsteps => (told_of_announced hannounced hsteps).1
  case driven =>
    rintro ⟨p, k, _⟩ hrun rfl lines o
    obtain ⟨w₁, hsteps₁, hrunner₁, hid₁⟩ := Hub.steps_log hrun lines
    obtain ⟨w₂, e, hsteps₂, hrunner₂, hid₂⟩ := (hv.steps hsteps₁).steps_complete hid₁ o
    obtain ⟨b, hsteps, rfl⟩ := exists_steps (hsteps₁.trans hsteps₂)
    obtain ⟨hvb, haccountsb⟩ := accounts_of_reachable (h.trans hsteps)
    obtain ⟨s, hs, houtcome⟩ := (hv.steps hsteps₁).outcome_complete hid₁ o
    rw [← hrunner₂] at hs
    refine ⟨b, hsteps, by rw [hrunner₂, hrunner₁]; rfl, s, hs, houtcome, ?_⟩
    obtain ⟨entry, hentry, hsession⟩ := Runner.session?_eq_some_iff.mp hs
    obtain ⟨_, hentry', -, o', houtcome', hstatus, rfl⟩ := hvb.entry hid₂
    obtain rfl := Option.some.inj (hentry.symm.trans hentry')
    rw [hsession] at houtcome'
    obtain rfl := Option.some.inj (houtcome.symm.trans houtcome')
    exact (ended_of_accounts hvb haccountsb ⟨_, hid₂, rfl⟩ hs).2

/-- A run with one byte of output to spare is told to stop, but exits before. -/
theorem agrees_truncated :
    ∃ a, Reachable { maxOutputBytes := 1 } "session" a ∧ a.Agrees "session" ∧
      a.told = [.log .stdout "a", .log .system Session.truncationMarker,
        .complete true (some 0) .exited] := by
  have h : Hub.Reachable { maxOutputBytes := 1 } _ := ReflTransGen.refl
    |>.tail (@Hub.Step.acquire _ "session" "pipeline" _ rfl rfl)
    |>.tail (@Hub.Step.openTopic _ "session" "pipeline" 0 rfl)
    |>.tail (@Hub.Step.enter _ "session" "pipeline" 0 rfl)
    |>.tail (@Hub.Step.record _ "session" "pipeline" 0 ⟨.stdout, "a"⟩ rfl)
    |>.tail (@Hub.Step.publish _ "session" "pipeline" 0 _ rfl)
    |>.tail (@Hub.Step.record _ "session" "pipeline" 0 ⟨.stderr, "b"⟩ rfl)
    |>.tail (@Hub.Step.stop _ "session" _ rfl)
    |>.tail (@Hub.Step.publish _ "session" "pipeline" 0 _ rfl)
    |>.tail (@Hub.Step.finish _ "session" "pipeline" 0 ⟨some 0, .exited⟩ rfl)
    |>.tail (@Hub.Step.release _ "session" "pipeline" 0 _ rfl)
    |>.tail (@Hub.Step.announce _ "session" "pipeline" 0 _ rfl)
  obtain ⟨a, hsteps, hhub⟩ := exists_reachable h "session"
  have hagrees := agrees_of_reachable hsteps
  have hannounced : Announced a.hub.runs "session" (.complete true (some 0) .exited) := by
    rw [hhub]
    exact ⟨_, rfl, rfl⟩
  obtain ⟨-, htold⟩ := hagrees.ended _ _ hannounced (by rw [hhub]; rfl)
  exact ⟨a, hsteps, hagrees, htold⟩

end Account

end Flowline.Simulation
