import Flowline.Simulation.Watch
import Mathlib.Data.List.Infix

/-!
# Turns

Each turn of the runner is at the most urgent of the things that it asks for and finds ready
(`Watch.turn_eq`).  Why it stops can be read off the turns that were taken: a turn at a signal is the last
one, an exit is seen once at most, and it counts if it was seen before any signal (`Watch.Ends`).
-/

namespace Flowline.Simulation

/-! ## Turns -/

/-- What a turn can be at. -/
inductive Happening
  | cancellation
  | deadline
  | line (l : LogLine)
  /-- The end of the output. -/
  | hangUp
  | exit (e : Exit)
  /-- The end of the time that output is given after the exit. -/
  | drained
  deriving DecidableEq

namespace Watch

variable {w : Watch} {r : Ready} {h : Happening} {handled : List Happening} {why : Stop}

/-- What is asked for and is ready, the most urgent first. -/
def offers (w : Watch) (r : Ready) : List Happening :=
  (if r.cancelled then [.cancellation] else []) ++
    (if r.deadline then [.deadline] else []) ++
    (if w.listening then r.line.toList.map .line ++ (if r.hungUp then [.hangUp] else []) else []) ++
    match w.exited with
    | none => r.exit.toList.map .exit
    | some _ => if r.drained then [.drained] else []

/-- What is asked for depends on what has been seen. -/
inductive Asked (w : Watch) (r : Ready) : Happening → Prop
  | cancellation (h : r.cancelled = true) : Asked w r .cancellation
  | deadline (h : r.deadline = true) : Asked w r .deadline
  | line {l : LogLine} (hlistening : w.listening = true) (h : r.line = some l) : Asked w r (.line l)
  | hangUp (hlistening : w.listening = true) (h : r.hungUp = true) : Asked w r .hangUp
  | exit {e : Exit} (hexited : w.exited = none) (h : r.exit = some e) : Asked w r (.exit e)
  | drained {e : Exit} (hexited : w.exited = some e) (h : r.drained = true) : Asked w r .drained

theorem asked_of_mem (hmem : h ∈ w.offers r) : w.Asked r h := by
  simp only [offers, List.mem_append] at hmem
  rcases hmem with ((hmem | hmem) | hmem) | hmem
  · split_ifs at hmem with hready
    · obtain rfl := List.mem_singleton.mp hmem
      exact .cancellation hready
    · cases hmem
  · split_ifs at hmem with hready
    · obtain rfl := List.mem_singleton.mp hmem
      exact .deadline hready
    · cases hmem
  · split_ifs at hmem with hlistening hready
    · rcases List.mem_append.mp hmem with hline | hhung
      · obtain ⟨l, hl, rfl⟩ := List.mem_map.mp hline
        exact .line hlistening (Option.mem_toList.mp hl)
      · obtain rfl := List.mem_singleton.mp hhung
        exact .hangUp hlistening hready
    · rw [List.append_nil] at hmem
      obtain ⟨l, hl, rfl⟩ := List.mem_map.mp hmem
      exact .line hlistening (Option.mem_toList.mp hl)
    · cases hmem
  · split at hmem
    · rename_i hexited
      obtain ⟨e, he, rfl⟩ := List.mem_map.mp hmem
      exact .exit hexited (Option.mem_toList.mp he)
    · rename_i hexited
      split_ifs at hmem with hready
      · obtain rfl := List.mem_singleton.mp hmem
        exact .drained hexited hready
      · cases hmem

/-- A turn is at the end of the output only if nothing is more urgent. -/
theorem of_head?_hangUp (hh : (w.offers r).head? = some .hangUp) :
    r.cancelled = false ∧ r.deadline = false ∧ r.hungUp = true := by
  have hready : r.hungUp = true := by
    cases asked_of_mem (List.mem_of_head? hh) with
    | hangUp _ hready => exact hready
  unfold offers at hh
  cases hcancelled : r.cancelled with
  | true => simp [hcancelled] at hh
  | false =>
    cases hdeadline : r.deadline with
    | true => simp [hcancelled, hdeadline] at hh
    | false => exact ⟨rfl, rfl, hready⟩

/-- What a turn comes to. -/
def handle (w : Watch) : Happening → Turn
  | .cancellation => w.stopFor .cancelled
  | .deadline => w.stopFor .timedOut
  | .line l => .take l w
  | .hangUp => settle { w with listening := false }
  | .exit e => settle { w with exited := some e }
  | .drained => w.stopFor .timedOut

/-- The most urgent thing is handled. -/
theorem turn_eq (w : Watch) (r : Ready) : w.turn r = (w.offers r).head?.elim .wait w.handle := by
  obtain ⟨listening, exited⟩ := w
  obtain ⟨cancelled, deadline, line, hungUp, exit, drained⟩ := r
  cases cancelled
  · cases deadline
    · cases listening <;> cases line <;> cases hungUp <;> cases exited <;> cases exit <;> cases drained <;> rfl
    · rfl
  · rfl

theorem turn_of_head? (hh : (w.offers r).head? = some h) : w.turn r = w.handle h := by
  rw [turn_eq, hh, Option.elim]

theorem settle_ne_take (w : Watch) (l : LogLine) (w' : Watch) : settle w ≠ .take l w' := by
  unfold settle
  split <;> simp

theorem stopFor_ne_take (w : Watch) (why : Stop) (l : LogLine) (w' : Watch) : w.stopFor why ≠ .take l w' := by
  unfold stopFor
  split <;> simp

/-- Only a turn at a line takes one. -/
theorem eq_line_of_handle {l : LogLine} {w' : Watch} (hturn : w.handle h = .take l w') : h = .line l := by
  cases h with
  | line k =>
    injection hturn with hk
    rw [hk]
  | hangUp => exact absurd hturn (settle_ne_take _ l w')
  | exit e => exact absurd hturn (settle_ne_take _ l w')
  | _ => exact absurd hturn (stopFor_ne_take w _ l w')

/-! ## What turns lead to -/

/-- The exit that was seen, if one was. -/
def Seen (e : Option Exit) (handled : List Happening) : Prop := ∀ e', .exit e' ∈ handled ↔ e = some e'

/-- No turn was at a signal to stop. -/
def Calm (handled : List Happening) : Prop :=
  .cancellation ∉ handled ∧ .deadline ∉ handled ∧ .drained ∉ handled

/-- A turn that can only be the last one. -/
def IsSignal (h : Happening) : Prop := h = .cancellation ∨ h = .deadline ∨ h = .drained

/-- What a runner that still watches knows of the turns that were taken. -/
structure Attends (w : Watch) (handled : List Happening) : Prop where
  calm : Calm handled
  seen : Seen w.exited handled
  listening : w.listening = true ↔ .hangUp ∉ handled
  unsettled : w.listening = true ∨ w.exited = none

/-- Why it stops after some turns. -/
inductive Ends : List Happening → Stop → Prop
  | cancelled {before : List Happening} (hcalm : Calm before) (hseen : Seen none before) :
    Ends (before ++ [.cancellation]) .cancelled
  | timedOut {before : List Happening} (hcalm : Calm before) (hseen : Seen none before) :
    Ends (before ++ [.deadline]) .timedOut
  /-- A signal after the exit, or there was time enough for output. -/
  | late {before : List Happening} {e : Exit} {h : Happening} (hcalm : Calm before)
    (hseen : Seen (some e) before) (hh : IsSignal h) : Ends (before ++ [h]) (.exited e)
  | settled {handled : List Happening} {e : Exit} (hcalm : Calm handled) (hseen : Seen (some e) handled)
    (hhung : .hangUp ∈ handled) : Ends handled (.exited e)

theorem seen_concat {e : Option Exit} (hseen : Seen e handled) (hh : ∀ e', h ≠ .exit e') :
    Seen e (handled ++ [h]) := by
  intro e'
  rw [List.mem_append, List.mem_singleton, ← hseen e', or_iff_left (hh e').symm]

theorem seen_concat_exit {e : Exit} (hseen : Seen none handled) : Seen (some e) (handled ++ [.exit e]) := by
  intro e'
  have hnone : Happening.exit e' ∉ handled := fun hmem => by cases (hseen e').mp hmem
  simp [hnone, eq_comm]

theorem calm_concat (hcalm : Calm handled) (hh : h ≠ .cancellation ∧ h ≠ .deadline ∧ h ≠ .drained) :
    Calm (handled ++ [h]) := by
  obtain ⟨hcancel, hdeadline, hdrained⟩ := hcalm
  simp [Calm, hcancel, hdeadline, hdrained, hh.1.symm, hh.2.1.symm, hh.2.2.symm]

theorem attends_start : Attends Watch.start [] where
  calm := ⟨List.not_mem_nil, List.not_mem_nil, List.not_mem_nil⟩
  seen _ := by simp [Watch.start]
  listening := by simp [Watch.start]
  unsettled := Or.inl rfl

/-- Where a turn leads, if it is the last of those taken. -/
def Leads (handled : List Happening) : Turn → Prop
  | .take _ w => Attends w handled
  | .go w => Attends w handled
  | .stop why => Ends handled why
  | .wait => False

namespace Attends

theorem signal (hw : Attends w handled)
    (hh : h = .cancellation ∧ why = .cancelled ∨ h = .deadline ∧ why = .timedOut) :
    Leads (handled ++ [h]) (w.stopFor why) := by
  have hseen := hw.seen
  rw [Watch.stopFor]
  cases hexited : w.exited with
  | none =>
    rw [hexited] at hseen
    rcases hh with ⟨rfl, rfl⟩ | ⟨rfl, rfl⟩
    · exact .cancelled hw.calm hseen
    · exact .timedOut hw.calm hseen
  | some e =>
    rw [hexited] at hseen
    refine .late hw.calm hseen ?_
    rcases hh with ⟨rfl, -⟩ | ⟨rfl, -⟩
    · exact Or.inl rfl
    · exact Or.inr (Or.inl rfl)

theorem line (hw : Attends w handled) (l : LogLine) : Attends w (handled ++ [.line l]) where
  calm := calm_concat hw.calm (by simp)
  seen := seen_concat hw.seen (by simp)
  listening := by simpa using hw.listening
  unsettled := hw.unsettled

theorem hangUp (hw : Attends w handled) :
    Leads (handled ++ [.hangUp]) (Watch.settle { w with listening := false }) := by
  have hcalm : Calm (handled ++ [.hangUp]) := calm_concat hw.calm (by simp)
  have hseen := seen_concat (h := .hangUp) hw.seen (by simp)
  have hmem : Happening.hangUp ∈ handled ++ [.hangUp] := by simp
  cases hexited : w.exited with
  | none =>
    rw [hexited] at hseen
    exact ⟨hcalm, hseen, iff_of_false Bool.false_ne_true (not_not_intro hmem), Or.inr rfl⟩
  | some e =>
    rw [hexited] at hseen
    exact .settled hcalm hseen hmem

theorem exit (hw : Attends w handled) (hexited : w.exited = none) (e : Exit) :
    Leads (handled ++ [.exit e]) (Watch.settle { w with exited := some e }) := by
  have hseen := hw.seen
  rw [hexited] at hseen
  have hcalm : Calm (handled ++ [.exit e]) := calm_concat hw.calm (by simp)
  have hiff : w.listening = true ↔ Happening.hangUp ∉ handled ++ [.exit e] := by simpa using hw.listening
  cases hlistening : w.listening with
  | false =>
    rw [hlistening] at hiff
    exact .settled hcalm (seen_concat_exit hseen) (by simpa using hiff)
  | true => exact ⟨hcalm, seen_concat_exit hseen, hlistening ▸ hiff, Or.inl rfl⟩

theorem drained (hw : Attends w handled) {e : Exit} (hexited : w.exited = some e) :
    Leads (handled ++ [.drained]) (w.stopFor .timedOut) := by
  have hseen := hw.seen
  rw [Watch.stopFor]
  rw [hexited] at hseen ⊢
  exact .late hw.calm hseen (Or.inr (Or.inr rfl))

/-- A turn at anything that is asked for. -/
theorem turned (hw : Attends w handled) (hasked : w.Asked r h) : Leads (handled ++ [h]) (w.handle h) := by
  cases hasked with
  | cancellation => exact hw.signal (Or.inl ⟨rfl, rfl⟩)
  | deadline => exact hw.signal (Or.inr ⟨rfl, rfl⟩)
  | line _ _ => exact hw.line _
  | hangUp _ _ => exact hw.hangUp
  | exit hexited _ => exact hw.exit hexited _
  | drained hexited _ => exact hw.drained hexited

end Attends

/-! ## Reasons -/

theorem Calm.not_isSignal (hcalm : Calm handled) (hmem : h ∈ handled) : ¬IsSignal h := by
  rintro (rfl | rfl | rfl)
  · exact hcalm.1 hmem
  · exact hcalm.2.1 hmem
  · exact hcalm.2.2 hmem

namespace Ends

theorem calm_dropLast (hends : Ends handled why) : Calm handled.dropLast := by
  cases hends with
  | settled hcalm _ _ =>
    obtain ⟨hcancel, hdeadline, hdrained⟩ := hcalm
    exact ⟨mt List.mem_of_mem_dropLast hcancel, mt List.mem_of_mem_dropLast hdeadline,
      mt List.mem_of_mem_dropLast hdrained⟩
  | cancelled hcalm _ => rwa [List.dropLast_concat]
  | timedOut hcalm _ => rwa [List.dropLast_concat]
  | late hcalm _ _ => rwa [List.dropLast_concat]

theorem eq_nil_of_isSignal (hends : Ends handled why) {before after : List Happening}
    (hsplit : handled = before ++ h :: after) (hsignal : IsSignal h) : after = [] := by
  by_contra hne
  refine hends.calm_dropLast.not_isSignal ?_ hsignal
  rw [hsplit, List.dropLast_append_of_ne_nil (List.cons_ne_nil _ _), List.dropLast_cons_of_ne_nil hne]
  simp

theorem exit_iff (hends : Ends handled why) {e : Exit} : .exit e ∈ handled ↔ why = .exited e := by
  cases hends with
  | cancelled _ hseen => simp [hseen e]
  | timedOut _ hseen => simp [hseen e]
  | @late _ _ h _ hseen hh =>
    have hne : Happening.exit e ≠ h := by rcases hh with rfl | rfl | rfl <;> simp
    simp [hseen e, hne]
  | settled _ hseen _ => simp [hseen e]

/-- A signal counts if no exit was seen. -/
theorem signal_iff (hends : Ends handled why) {stop : Stop}
    (hstop : stop = .cancelled ∧ h = .cancellation ∨ stop = .timedOut ∧ h = .deadline) :
    why = stop ↔ handled.getLast? = some h ∧ ∀ e, .exit e ∉ handled := by
  constructor
  · rintro rfl
    rcases hstop with ⟨rfl, rfl⟩ | ⟨rfl, rfl⟩
    · cases hends with
      | cancelled _ hseen => exact ⟨List.getLast?_concat, fun e hmem => by simp [hseen e] at hmem⟩
    · cases hends with
      | timedOut _ hseen => exact ⟨List.getLast?_concat, fun e hmem => by simp [hseen e] at hmem⟩
  · rintro ⟨hlast, hnone⟩
    cases hends with
    | cancelled => rcases hstop with ⟨rfl, -⟩ | ⟨-, rfl⟩ <;> simp at hlast ⊢
    | timedOut => rcases hstop with ⟨-, rfl⟩ | ⟨rfl, -⟩ <;> simp at hlast ⊢
    | late _ hseen _ => exact absurd (List.mem_append_left _ ((hseen _).mpr rfl)) (hnone _)
    | settled _ hseen _ => exact absurd ((hseen _).mpr rfl) (hnone _)

/-- The time given to output is over only after an exit. -/
theorem exited_of_drained (hends : Ends handled why) (hmem : .drained ∈ handled) : ∃ e, why = .exited e := by
  cases hends with
  | cancelled hcalm _ => simp [hcalm.2.2] at hmem
  | timedOut hcalm _ => simp [hcalm.2.2] at hmem
  | late => exact ⟨_, rfl⟩
  | settled => exact ⟨_, rfl⟩

/-- An exit that was seen was seen before any signal. -/
theorem exited_iff (hends : Ends handled why) : (∃ e, why = .exited e) ↔
    ∃ before e after, handled = before ++ .exit e :: after ∧ .cancellation ∉ before ∧ .deadline ∉ before := by
  constructor
  · rintro ⟨e, hwhy⟩
    obtain ⟨before, after, hsplit⟩ := List.append_of_mem (hends.exit_iff.mpr hwhy)
    have hbefore : ∀ h ∈ before, ¬IsSignal h := by
      intro h hmem hsignal
      obtain ⟨front, back, rfl⟩ := List.append_of_mem hmem
      rw [List.append_assoc, List.cons_append] at hsplit
      have hnil := hends.eq_nil_of_isSignal hsplit hsignal
      simp at hnil
    exact ⟨before, e, after, hsplit, fun hmem => hbefore _ hmem (Or.inl rfl),
      fun hmem => hbefore _ hmem (Or.inr (Or.inl rfl))⟩
  · rintro ⟨before, e, after, rfl, -, -⟩
    exact ⟨e, hends.exit_iff.mp (by simp)⟩

end Ends

end Watch

namespace Stop

variable {why : Stop} {timeoutMs : ℕ}

theorem reason_eq_exited_iff : (why.outcome timeoutMs).1.reason = .exited ↔ ∃ e, why = .exited e := by
  cases why with
  | exited e => cases e <;> simp [Stop.outcome]
  | _ => simp [Stop.outcome]

theorem reason_eq_cancelled_iff : (why.outcome timeoutMs).1.reason = .cancelled ↔ why = .cancelled := by
  cases why with
  | exited e => cases e <;> simp [Stop.outcome]
  | _ => simp [Stop.outcome]

theorem reason_eq_timedOut_iff : (why.outcome timeoutMs).1.reason = .timedOut ↔ why = .timedOut := by
  cases why with
  | exited e => cases e <;> simp [Stop.outcome]
  | _ => simp [Stop.outcome]

end Stop

end Flowline.Simulation
