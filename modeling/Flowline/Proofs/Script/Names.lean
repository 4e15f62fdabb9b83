import Flowline.Script.Expr

/-!
# Names in expressions

The names in an expression are its longest stretches of characters of which names are made.  Every
variable of a step is one name and starts with `step_`, so the variables that an expression mentions are
among its names that start so.
-/

namespace Flowline

namespace Text

theorem pieces_ne_nil (p : Char → Bool) (cs : List Char) : pieces p cs ≠ [] := by
  cases cs with
  | nil => simp [pieces]
  | cons c cs =>
    simp only [pieces]
    split
    · simp
    · split <;> simp

/-- A character that separates ends the pieces before it. -/
theorem pieces_append_cons {p : Char → Bool} {c : Char} (hc : p c = true) (cs ds : List Char) :
    pieces p (cs ++ c :: ds) = pieces p cs ++ pieces p ds := by
  induction cs with
  | nil => simp [pieces, hc]
  | cons x xs ih =>
    simp only [List.cons_append, pieces, ih]
    split
    · rfl
    · cases h : pieces p xs with
      | nil => exact absurd h (pieces_ne_nil p xs)
      | cons w ws => rfl

theorem pieces_eq_singleton {p : Char → Bool} {cs : List Char} (h : ∀ c ∈ cs, p c = false) :
    pieces p cs = [cs] := by
  induction cs with
  | nil => rfl
  | cons c cs ih =>
    simp [pieces, h c (by simp), ih fun d hd => h d (by simp [hd])]

end Text

namespace Script

/-- Whether names may contain a character. -/
def isNameChar (c : Char) : Bool := Text.isLetterOrDigit c || c = '_' || c = '$'

/-- The names in an expression. -/
def names (expr : String) : List String :=
  ((Text.pieces (! isNameChar ·) expr.toList).filter (! ·.isEmpty)).map String.ofList

def startsStep (name : String) : Bool := "step_".toList.isPrefixOf name.toList

/-- The names in an expression that could be variables of steps. -/
def stepNames (expr : String) : List String := (names expr).filter startsStep

/-- A text that is one name and could be the variable of a step. -/
structure IsStepName (name : String) : Prop where
  chars : ∀ c ∈ name.toList, isNameChar c = true
  starts : startsStep name = true

variable {name base : String} {c : Char} {cs : List Char}

theorem startsStep_append (h : startsStep name = true) (suffix : String) :
    startsStep (name ++ suffix) = true := by
  rw [startsStep, List.isPrefixOf_iff_prefix] at h ⊢
  rw [String.toList_append]
  exact h.trans (List.prefix_append _ _)

theorem IsStepName.ne_nil (h : IsStepName name) : name.toList ≠ [] := by
  intro hnil
  have hstarts := h.starts
  rw [startsStep, hnil] at hstarts
  exact absurd hstarts (by decide)

theorem IsStepName.pieces_eq (h : IsStepName name) :
    Text.pieces (! isNameChar ·) name.toList = [name.toList] :=
  Text.pieces_eq_singleton fun c hc => by simp [h.chars c hc]

theorem stepNames_undefined : stepNames "undefined" = [] := by decide

theorem stepNames_name (h : IsStepName name) : stepNames name = [name] := by
  simp [stepNames, names, h.pieces_eq, h.ne_nil, h.starts]

/-- A name is followed by another only after a character that is in no name. -/
theorem stepNames_append (h : IsStepName name) (hc : isNameChar c = false) :
    stepNames (name ++ String.ofList (c :: cs)) = name :: stepNames (String.ofList cs) := by
  simp [stepNames, names, Text.pieces_append_cons, hc, h.pieces_eq, h.ne_nil, h.starts]

end Script

end Flowline
