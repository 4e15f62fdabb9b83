import Flowline.Text
import Flowline.Text.Utf8
import Mathlib.Data.List.DropRight

/-!
# Trimmed, replaced and decoded text
-/

namespace Flowline.Text

theorem trimChars_eq_nil_iff {cs : List Char} : trimChars cs = [] ↔ ∀ c ∈ cs, isBlank c := by
  simp only [trimChars, List.reverse_eq_nil_iff, List.dropWhile_eq_nil_iff, List.mem_reverse]
  constructor
  · intro h
    by_cases hne : cs.dropWhile isBlank = []
    · exact List.dropWhile_eq_nil_iff.mp hne
    · -- the first character that stays would not be blank
      have hhead := List.head_dropWhile_not isBlank hne
      rw [h _ (List.head_mem hne)] at hhead
      exact absurd hhead (by decide)
  · exact fun h c hc => h c (List.dropWhile_subset _ hc)

/-- Nothing is left of a text by trimming it exactly if it is all blank. -/
theorem trim_eq_empty_iff {s : String} : trim s = "" ↔ isAllBlank s := by
  rw [isAllBlank, List.all_eq_true, ← trimChars_eq_nil_iff, trim]
  constructor
  · intro h
    simpa using congrArg String.toList h
  · intro h
    simp [h]

/-- What is left after trimming does not begin with a blank. -/
theorem dropWhile_trimChars (cs : List Char) : (trimChars cs).dropWhile isBlank = trimChars cs := by
  have hprefix : trimChars cs <+: cs.dropWhile isBlank := by
    rw [trimChars, ← List.reverse_suffix, List.reverse_reverse]
    exact List.dropWhile_suffix _
  cases htrim : trimChars cs with
  | nil => rfl
  | cons c rest =>
    rw [htrim] at hprefix
    have hne : cs.dropWhile isBlank ≠ [] := fun h => by simp [h] at hprefix
    have hhead := List.head_dropWhile_not isBlank hne
    obtain ⟨tail, htail⟩ := hprefix
    simp only [← htail, List.cons_append, List.head_cons] at hhead
    rw [List.dropWhile_cons_of_neg (by simp [hhead])]

theorem trimChars_trimChars (cs : List Char) : trimChars (trimChars cs) = trimChars cs := by
  have hreverse : (trimChars cs).reverse = (cs.dropWhile isBlank).reverse.dropWhile isBlank :=
    List.reverse_reverse _
  calc trimChars (trimChars cs) = ((trimChars cs).reverse.dropWhile isBlank).reverse := by
        rw [trimChars, dropWhile_trimChars]
    _ = (trimChars cs).reverse.reverse := by
        rw [hreverse, List.dropWhile_idempotent]
    _ = trimChars cs := List.reverse_reverse _

/-- Trimming again changes nothing. -/
@[simp] theorem trim_trim (s : String) : trim (trim s) = trim s := by
  rw [trim, trim, String.toList_ofList, trimChars_trimChars]

/-- Of a pattern of one character every occurrence is replaced, and nothing else. -/
theorem replaceChars_singleton (a : Char) (new cs : List Char) :
    replaceChars [a] new 0 cs = cs.flatMap fun c => if c = a then new else [c] := by
  induction cs with
  | nil => rfl
  | cons c cs ih =>
    rw [replaceChars, List.flatMap_cons, ← ih]
    by_cases hc : c = a
    · simp [hc]
    · simp [hc, Ne.symm hc]

theorem toList_replace_singleton (s : String) (a : Char) (new : String) :
    (replace s (String.singleton a) new).toList =
      s.toList.flatMap fun c => if c = a then new.toList else [c] := by
  rw [replace, String.toList_ofList, String.toList_singleton, replaceChars_singleton]

namespace Utf8

/-- Any bytes, and also the first ones of a character alone, are read as one character at least. -/
theorem chars_ne_nil {pending : Option Pending} {bytes : List UInt8} (h : pending.isSome ∨ bytes ≠ []) :
    chars pending bytes ≠ [] := by
  induction bytes generalizing pending with
  | nil =>
    obtain ⟨p, rfl⟩ := Option.isSome_iff_exists.mp (h.resolve_right fun hne => hne rfl)
    exact List.cons_ne_nil _ _
  | cons b bytes ih =>
    cases pending with
    | none =>
      rw [chars]
      split
      · exact List.cons_ne_nil _ _
      · exact ih (Or.inl rfl)
      · exact List.cons_ne_nil _ _
    | some p =>
      rw [chars]
      dsimp only
      split_ifs
      · exact List.cons_ne_nil _ _
      · exact ih (Or.inl rfl)
      · split <;> exact List.cons_ne_nil _ _

theorem decode_ne_empty {bytes : List UInt8} (h : bytes ≠ []) : decode bytes ≠ "" := by
  intro hdecode
  have hchars := congrArg String.toList hdecode
  rw [decode, String.toList_ofList] at hchars
  exact chars_ne_nil (Or.inr h) hchars

end Utf8

end Flowline.Text
