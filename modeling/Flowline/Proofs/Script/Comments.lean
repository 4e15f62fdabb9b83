import Flowline.Script.Line
import Mathlib.Data.Nat.Notation

/-!
# Comments and line ends

A comment of the script ends where its line does.  A line ends at a line feed and at a carriage return,
and also at two separators of Unicode.  The former are taken out of the text of a comment, the latter
are not: a comment is on one line exactly if its text has no such separator.
-/

namespace Flowline

namespace Text

/-- The line separator and the paragraph separator. -/
def isSeparator (c : Char) : Bool := c == '\u2028' || c == '\u2029'

/-- The characters at which a line of the script ends. -/
def isLineEnd (c : Char) : Bool := c == '\n' || c == '\r' || isSeparator c

/-- A text that is on one line. -/
def OneLine (s : String) : Prop := ∀ c ∈ s.toList, isLineEnd c = false

/-- A text without separators. -/
def Unseparated (s : String) : Prop := ∀ c ∈ s.toList, isSeparator c = false

instance (s : String) : Decidable (OneLine s) := List.decidableBAll _ s.toList

instance (s : String) : Decidable (Unseparated s) := List.decidableBAll _ s.toList

variable {s t : String}

theorem oneLine_append : OneLine (s ++ t) ↔ OneLine s ∧ OneLine t := by
  unfold OneLine
  simp only [String.toList_append, List.mem_append, or_imp, forall_and]

theorem unseparated_append : Unseparated (s ++ t) ↔ Unseparated s ∧ Unseparated t := by
  unfold Unseparated
  simp only [String.toList_append, List.mem_append, or_imp, forall_and]

theorem forall_mem_flatten {P Q : Char → Prop} (hfeed : P ' ' ↔ Q '\n') (hreturn : P ' ' ↔ Q '\r')
    (hother : ∀ c, c ≠ '\n' → c ≠ '\r' → (P c ↔ Q c)) :
    (∀ c ∈ (flatten s).toList, P c) ↔ ∀ c ∈ s.toList, Q c := by
  unfold flatten
  rw [String.toList_ofList, List.forall_mem_map]
  refine forall_congr' fun c => imp_congr_right fun _ => ?_
  by_cases hc : c = '\n'
  · simpa [hc] using hfeed
  · by_cases hd : c = '\r'
    · simpa [hd] using hreturn
    · simpa [hc, hd] using hother c hc hd

/-- Of the characters that end a line only separators are left. -/
theorem oneLine_flatten : OneLine (flatten s) ↔ Unseparated s := by
  refine forall_mem_flatten (by decide) (by decide) fun c hfeed hreturn => ?_
  simp [isLineEnd, hfeed, hreturn]

theorem unseparated_flatten : Unseparated (flatten s) ↔ Unseparated s :=
  forall_mem_flatten (by decide) (by decide) fun _ _ _ => Iff.rfl

/-- A number is written in digits, none of which is a separator. -/
theorem unseparated_toString (n : ℕ) : Unseparated (toString n) := by
  intro c hc
  have hdigits : (toString n).toList = Nat.toDigits 10 n := String.toList_ofList
  rw [hdigits] at hc
  have hdigit : c.isDigit = true := Nat.isDigit_of_mem_toDigits (by decide) (by decide) hc
  unfold isSeparator
  rw [Bool.or_eq_false_iff, beq_eq_false_iff_ne, beq_eq_false_iff_ne]
  constructor
  · rintro rfl
    revert hdigit
    decide
  · rintro rfl
    revert hdigit
    decide

end Text

namespace Script

open Text

/-! ## Comments -/

namespace Line

def isComment : Line → Bool
  | comment _ _ => true
  | _ => false

@[simp] theorem isComment_deeper (l : Line) : l.deeper.isComment = l.isComment := by
  cases l <;> rfl

end Line

/-- The comments among some lines. -/
def comments (lines : List Line) : List Line := lines.filter Line.isComment

variable {ls ms : List Line}

@[simp] theorem comments_nil : comments [] = [] := rfl

@[simp] theorem comments_blank : comments (.blank :: ls) = comments ls := rfl

@[simp] theorem comments_line (text : String) : comments (line text :: ls) = comments ls := rfl

@[simp] theorem comments_comment (depth : ℕ) (text : String) :
    comments (.comment depth text :: ls) = .comment depth text :: comments ls := rfl

@[simp] theorem comments_append : comments (ls ++ ms) = comments ls ++ comments ms :=
  List.filter_append ..

@[simp] theorem comments_indent : comments (indent ls) = indent (comments ls) := by
  unfold comments indent
  rw [List.filter_map]
  congr 2
  funext l
  exact l.isComment_deeper

@[simp] theorem indent_nil : indent [] = [] := rfl

@[simp] theorem comments_block (opening closing : String) :
    comments (block opening ls closing) = indent (comments ls) := by
  simp [block]

theorem mem_block {l : Line} (h : l ∈ ls) (opening closing : String) :
    l.deeper ∈ block opening ls closing := by
  have hindent : l.deeper ∈ indent ls := List.mem_map_of_mem h
  exact List.mem_cons_of_mem _ (List.mem_append_left _ hindent)

theorem comments_flatMap {α : Type} (f : α → List Line) (xs : List α) :
    comments (xs.flatMap f) = xs.flatMap fun x => comments (f x) := List.filter_flatMap

theorem comments_map {α : Type} {f : α → Line} (h : ∀ x, (f x).isComment = false) (xs : List α) :
    comments (xs.map f) = [] := by
  unfold comments
  rw [List.filter_eq_nil_iff]
  intro l hl
  obtain ⟨x, -, rfl⟩ := List.mem_map.mp hl
  simp [h]

theorem oneLine_indentation (depth : ℕ) : OneLine (Line.indentation depth) := by
  unfold Line.indentation
  induction depth with
  | zero => decide
  | succ depth ih =>
    rw [List.replicate_succ, String.join_cons, oneLine_append]
    exact ⟨by decide, ih⟩

/-- A comment ends with its line exactly if its text has no separator. -/
theorem oneLine_comment {depth : ℕ} {text : String} :
    OneLine (Line.comment depth text).render ↔ Unseparated text := by
  unfold Line.render
  rw [oneLine_append, oneLine_append, oneLine_flatten]
  have hopening : OneLine "// " := by decide
  simp only [oneLine_indentation, hopening, true_and]

end Script

end Flowline
