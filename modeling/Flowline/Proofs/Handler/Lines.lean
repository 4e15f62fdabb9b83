import Flowline.Handler

/-!
# The lines of a handler

The lines of the steps follow each other in the order of the steps, one level below the handler and each
step behind its comment.  A step that has a value declares its variable on a line of its own that is not
inside a condition; all else that it does is inside the condition of its guards, if it has any.
-/

namespace Flowline

open Script

namespace Step

variable {s s' : Step} {before after : List Step}

/-- The line that declares the variable of a step: a constant, or under a guard a variable that the
condition assigns. -/
def Declares (s : Step) (l : Line) : Prop :=
  if s.guards = [] then
    ∃ v, s.fragment.value = some v ∧ l = .code 0 ("const " ++ s.inputs.var ++ " = " ++ v ++ ";")
  else l = .code 0 ("let " ++ s.inputs.var ++ ": any;")

theorem exists_declares (h : s.fragment.value.isSome) : ∃ l ∈ s.lines, s.Declares l := by
  obtain ⟨v, hv⟩ := Option.isSome_iff_exists.mp h
  by_cases hg : s.guards = []
  · refine ⟨line ("const " ++ s.inputs.var ++ " = " ++ v ++ ";"), ?_, ?_⟩
    · simp [lines, hg, hv]
    · rw [Declares, if_pos hg]
      exact ⟨v, hv, rfl⟩
  · refine ⟨line ("let " ++ s.inputs.var ++ ": any;"), ?_, ?_⟩
    · simp [lines, hg, hv]
    · rw [Declares, if_neg hg]
      rfl

/-- What a step does, and what its value is assigned to. -/
def body (s : Step) (target : String) : List Line :=
  s.fragment.setup.map line ++ (s.fragment.value.map fun v => line (target ++ " = " ++ v ++ ";")).toList ++
    s.fragment.effects.map line

/-- What a step does stands in one condition, that all its guards hold, with nothing before it but the
declaration of the variable.  A step without guards stands in no condition. -/
structure Conditioned (s : Step) : Prop where
  free : s.guards = [] → s.lines = s.body ("const " ++ s.inputs.var)
  guarded : s.guards ≠ [] → ∃ declared, (∀ l ∈ declared, s.Declares l) ∧ s.lines = declared ++
    block ("if (" ++ String.intercalate " && " (s.guards.map Guard.render) ++ ") \x7b")
      (s.body s.inputs.var) "\x7d"

theorem conditioned (s : Step) : s.Conditioned where
  free h := by
    rw [lines, if_pos (List.isEmpty_iff.mpr h)]
    rfl
  guarded h := by
    refine ⟨(s.fragment.value.map fun _ => line ("let " ++ s.inputs.var ++ ": any;")).toList, ?_, ?_⟩
    · intro l hl
      obtain ⟨v, -, rfl⟩ := Option.map_eq_some_iff.mp (Option.mem_toList.mp hl)
      rw [Declares, if_neg h]
      rfl
    · rw [lines, if_neg (mt List.isEmpty_iff.mp h)]
      rfl

theorem linesFrom_append (before after : List Step) (i : Nat) :
    linesFrom i (before ++ after) = linesFrom i before ++ linesFrom (i + before.length) after := by
  induction before generalizing i with
  | nil => rfl
  | cons s before ih => simp [linesFrom, ih, Nat.add_assoc, Nat.add_comm 1]

theorem mem_linesFrom {l : Line} (hs : s ∈ before) (hl : l ∈ s.lines) (i : Nat) :
    l ∈ linesFrom i before := by
  induction before generalizing i with
  | nil => simp at hs
  | cons x before ih =>
    rw [linesFrom]
    rcases List.mem_cons.mp hs with rfl | hs
    · simp [hl]
    · simp [ih hs]

end Step

namespace Handler

variable {h : Handler} {before after : List Step} {s : Step}

/-- The lines of a step come behind its comment, and those of earlier steps before that. -/
theorem lines_eq_comment (heq : h.steps = before ++ s :: after) :
    ∃ pre post, h.lines = pre ++ (s.comment (before.length + 1)).deeper :: indent s.lines ++ post ∧
      ∀ s' ∈ before, ∀ l ∈ s'.lines, l.deeper ∈ pre := by
  obtain ⟨opening, hlines⟩ : ∃ opening, h.lines =
      block opening (Step.linesFrom 1 h.steps ++ [line "return \"ok\";"]) "\x7d;" := ⟨_, rfl⟩
  rw [hlines, block, heq, Step.linesFrom_append, Step.linesFrom, Nat.add_comm 1]
  refine ⟨line opening :: indent (Step.linesFrom 1 before),
    indent (.blank :: (Step.linesFrom (before.length + 1 + 1) after ++ [line "return \"ok\";"])) ++
      [line "\x7d;"], ?_, ?_⟩
  · simp [indent]
  · intro s' hs' l hl
    exact List.mem_cons_of_mem _ (List.mem_map_of_mem (Step.mem_linesFrom hs' hl 1))

theorem lines_eq (heq : h.steps = before ++ s :: after) :
    ∃ pre post, h.lines = pre ++ indent s.lines ++ post ∧
      ∀ s' ∈ before, ∀ l ∈ s'.lines, l.deeper ∈ pre := by
  obtain ⟨pre, post, hlines, hbefore⟩ := lines_eq_comment heq
  refine ⟨pre ++ [(s.comment (before.length + 1)).deeper], post, by rw [hlines]; simp, ?_⟩
  exact fun s' hs' l hl => List.mem_append_left _ (hbefore s' hs' l hl)

end Handler

end Flowline
