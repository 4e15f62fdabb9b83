import Flowline.Json.Basic
import Mathlib.Data.List.Basic

/-!
# The text of a number

Whole numbers and doubles are written in digits, points, signs and exponent marks: `numeric_render`.
-/

namespace Flowline

/-- A character in the text of a number. -/
def isNumberChar (c : Char) : Bool := c.isDigit || c == '.' || c == '-' || c == '+' || c == 'e'

/-- Characters of numbers, at least one. -/
structure Numeric (cs : List Char) : Prop where
  ne_nil : cs ≠ []
  all : cs.all isNumberChar = true

variable {cs ds : List Char}

theorem Numeric.append (hc : cs.all isNumberChar = true) (hd : Numeric ds) : Numeric (cs ++ ds) :=
  ⟨List.append_ne_nil_of_right_ne_nil cs hd.ne_nil, by rw [List.all_append, hc, hd.all, Bool.and_self]⟩

theorem Numeric.cons {c : Char} (hc : isNumberChar c = true) (hd : ds.all isNumberChar = true) :
    Numeric (c :: ds) :=
  ⟨List.cons_ne_nil c ds, by rw [List.all_cons, hc, hd, Bool.and_self]⟩

theorem numeric_toDigits (n : Nat) : Numeric (Nat.toDigits 10 n) where
  ne_nil := Nat.toDigits_ne_nil
  all := by
    rw [List.all_eq_true]
    intro c hc
    simp [isNumberChar, Nat.isDigit_of_mem_toDigits (by decide) (by decide) hc]

theorem numeric_int (n : Int) : Numeric (toString n).toList := by
  rw [Int.toString_eq_repr, Int.repr_eq_if]
  split
  · rw [Nat.toList_repr]
    exact numeric_toDigits _
  · rw [String.toList_append, Nat.toList_repr]
    exact .append rfl (numeric_toDigits _)

namespace Decimal

theorem all_zeros (n : Nat) : (List.replicate n '0').all isNumberChar = true := by
  rw [List.all_replicate]
  split <;> rfl

/-- A layout adds points and zeros to the digits, and an exponent with its mark and sign. -/
theorem Layout.numeric_render {layout : Layout} (hplus : layout.plus.toList.all isNumberChar = true)
    (hmark : layout.mark.toList.all isNumberChar = true) (x : Digits) :
    Numeric (layout.render x).toList := by
  have hdigits : Numeric (toString x.digits).toList := by
    rw [Nat.toString_eq_repr, Nat.toList_repr]
    exact numeric_toDigits _
  unfold Layout.render
  generalize (toString x.digits).toList = ds at hdigits
  have hpart : ∀ cs, cs ⊆ ds → cs.all isNumberChar = true := by
    intro cs hcs
    rw [List.all_eq_true]
    exact fun c hc => List.all_eq_true.mp hdigits.all c (hcs hc)
  dsimp only
  split
  · split_ifs with hwhole hpoint
    · simp only [String.toList_append, String.toList_ofList, List.append_assoc]
      exact .append hdigits.all (.append (all_zeros _) (.cons rfl rfl))
    · simp only [String.toList_append, String.toList_ofList, List.append_assoc]
      exact .append (hpart _ (List.take_subset _ _)) (.cons rfl (hpart _ (List.drop_subset _ _)))
    · simp only [String.toList_append, String.toList_ofList]
      exact .append rfl (.append (all_zeros _) hdigits)
  · simp only [String.toList_append, List.append_assoc]
    refine .append ?_ (.append hmark (.append ?_ (numeric_int _)))
    · -- of several digits the first stands before a point
      split
      · simp only [String.toList_append, String.toList_ofList, List.append_assoc]
        exact (Numeric.append (hpart _ (by simp)) (.cons rfl (hpart _ (List.subset_cons_self _ _)))).all
      · rw [String.toList_ofList]
        exact hdigits.all
    · split
      · exact hplus
      · rfl

end Decimal

namespace Number

theorem numeric_render (n : Number) : Numeric n.render.toList := by
  cases n with
  | int n => exact numeric_int n
  | float x =>
    have hsign : (if x.toBits.toNat < 0x8000000000000000 then "" else "-").toList.all isNumberChar =
        true := by
      split <;> rfl
    rw [render, floatText]
    split
    · rw [String.toList_append]
      exact .append hsign (.cons rfl rfl)
    · rw [String.toList_append]
      exact .append hsign (Decimal.Layout.numeric_render rfl rfl _)

end Number

end Flowline
