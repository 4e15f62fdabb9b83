import Flowline.Proofs.Json.Literals
import Mathlib.Data.List.Induction

/-!
# Whole numbers in texts

A text that spells a 64-bit number is a plus sign or nothing, then any number of zeros, then the digits of
the number: `natural?_eq_some_iff`.  In the script, `BigInt` makes the number of every such text, but only
without the zeros is it a numeral.
-/

namespace Flowline

namespace Text

/-- A number in digits, with some zeros before them and a plus sign before these or not. -/
def spelled (plus : Bool) (zeros n : Nat) : String :=
  (if plus then "+" else "") ++ String.ofList (List.replicate zeros '0') ++ toString n

variable {plus : Bool} {zeros n : Nat} {s : String}

theorem toList_spelled : (spelled plus zeros n).toList =
    (if plus then ['+'] else []) ++ (List.replicate zeros '0' ++ Nat.toDigits 10 n) := by
  cases plus <;> simp [spelled, Nat.toString_eq_repr]

theorem toString_eq_spelled (n : Nat) : toString n = spelled false 0 n := by simp [spelled]

theorem isDigit_of_mem_zeros {c : Char} (hc : c ∈ List.replicate zeros '0' ++ Nat.toDigits 10 n) :
    c.isDigit = true := by
  rcases List.mem_append.mp hc with hc | hc
  · rw [List.eq_of_mem_replicate hc]
    rfl
  · exact Nat.isDigit_of_mem_toDigits (by decide) (by decide) hc

/-- Zeros in front do not count. -/
theorem ofDigitChars_zeros (zeros n : Nat) :
    Nat.ofDigitChars 10 (List.replicate zeros '0' ++ Nat.toDigits 10 n) 0 = n := by
  induction zeros with
  | zero => exact Nat.ofDigitChars_ten_toDigits
  | succ zeros ih =>
    rw [List.replicate_succ, List.cons_append, Nat.ofDigitChars_cons]
    exact ih

/-- A digit has a value, and is what that value is written as. -/
theorem digitChar_value {c : Char} (hc : c.isDigit = true) :
    c.toNat - '0'.toNat < 10 ∧ Nat.digitChar (c.toNat - '0'.toNat) = c := by
  obtain ⟨hlow, hhigh⟩ := Char.isDigit_iff_toNat.mp hc
  have hzero : '0'.toNat = 48 := rfl
  have hnine : '9'.toNat = 57 := rfl
  have hlt : c.toNat - '0'.toNat < 10 := by omega
  refine ⟨hlt, Char.toNat_inj.mp ?_⟩
  rw [Nat.toNat_digitChar_of_lt_ten hlt]
  omega

/-- Digits are some zeros and then the digits of the number that they write. -/
theorem eq_zeros_append_toDigits {ds : List Char} (hne : ds ≠ []) (hds : ∀ c ∈ ds, c.isDigit = true) :
    ∃ zeros, ds = List.replicate zeros '0' ++ Nat.toDigits 10 (Nat.ofDigitChars 10 ds 0) := by
  induction ds using List.reverseRecOn with
  | nil => exact absurd rfl hne
  | append_singleton ds c ih =>
    obtain ⟨hlt, hchar⟩ := digitChar_value (hds c (by simp))
    have hlast : Nat.toDigits 10 (c.toNat - '0'.toNat) = [c] := by
      rw [Nat.toDigits_of_lt_base hlt, hchar]
    rw [Nat.ofDigitChars_append, Nat.ofDigitChars_cons, Nat.ofDigitChars_nil]
    by_cases hnil : ds = []
    · refine ⟨0, ?_⟩
      rw [hnil, Nat.ofDigitChars_nil, Nat.mul_zero, Nat.zero_add, hlast]
      rfl
    · obtain ⟨zeros, hzeros⟩ := ih hnil fun d hd => hds d (by simp [hd])
      generalize Nat.ofDigitChars 10 ds 0 = m at hzeros ⊢
      rcases Nat.eq_zero_or_pos m with rfl | hm
      · -- all digits so far are zeros
        refine ⟨zeros + 1, ?_⟩
        rw [hzeros, Nat.mul_zero, Nat.zero_add, hlast, List.replicate_succ']
        rfl
      · refine ⟨zeros, ?_⟩
        rw [← Nat.toDigits_append_toDigits (by decide) hm hlt, hlast, ← List.append_assoc, ← hzeros]

theorem dropPlus_spelled : dropPlus (spelled plus zeros n).toList =
    List.replicate zeros '0' ++ Nat.toDigits 10 n := by
  rw [toList_spelled]
  cases plus with
  | true => rfl
  | false =>
    rw [if_neg Bool.false_ne_true, List.nil_append]
    unfold dropPlus
    split
    · rename_i cs hcs
      have hplus := isDigit_of_mem_zeros (c := '+') (hcs ▸ List.mem_cons_self)
      exact absurd hplus (by decide)
    · rfl

/-- The text is a plus sign or nothing, and then what the sign is dropped from. -/
theorem eq_sign_append_dropPlus (s : String) :
    ∃ plus : Bool, s.toList = (if plus then ['+'] else []) ++ dropPlus s.toList := by
  unfold dropPlus
  split
  · rename_i cs hcs
    exact ⟨true, hcs⟩
  · exact ⟨false, rfl⟩

/-- The texts of the numbers up to the largest. -/
theorem naturalUpTo?_eq_some_iff {largest : Nat} :
    naturalUpTo? largest s = some n ↔ n ≤ largest ∧ ∃ plus zeros, s = spelled plus zeros n := by
  constructor
  · intro h
    unfold naturalUpTo? at h
    dsimp only at h
    split_ifs at h with hdigits hmax
    rw [Bool.not_eq_true, Bool.or_eq_false_iff, List.isEmpty_eq_false_iff, Bool.not_eq_false',
      List.all_eq_true] at hdigits
    obtain ⟨plus, hplus⟩ := eq_sign_append_dropPlus s
    obtain ⟨zeros, hzeros⟩ := eq_zeros_append_toDigits hdigits.1 hdigits.2
    have hvalue : Nat.ofDigitChars 10 (dropPlus s.toList) 0 = n := Option.some.inj h
    refine ⟨Option.some.inj h ▸ hmax, plus, zeros, ?_⟩
    rw [← String.toList_inj, toList_spelled, hplus]
    rw [hvalue] at hzeros
    rw [← hzeros]
  · rintro ⟨hmax, plus, zeros, rfl⟩
    have hvalue : digitsValue (List.replicate zeros '0' ++ Nat.toDigits 10 n) = n :=
      ofDigitChars_zeros zeros n
    have hne : List.replicate zeros '0' ++ Nat.toDigits 10 n ≠ [] :=
      List.append_ne_nil_of_right_ne_nil _ Nat.toDigits_ne_nil
    have hall : (List.replicate zeros '0' ++ Nat.toDigits 10 n).all Char.isDigit = true :=
      List.all_eq_true.mpr fun c hc => isDigit_of_mem_zeros hc
    unfold naturalUpTo?
    simp only [dropPlus_spelled, hvalue, hall, List.isEmpty_eq_false_iff.mpr hne, if_pos hmax,
      Bool.not_true, Bool.or_false, Bool.false_eq_true, if_false]

theorem natural?_eq_some_iff :
    natural? s = some n ↔ n ≤ maxWord ∧ ∃ plus zeros, s = spelled plus zeros n :=
  naturalUpTo?_eq_some_iff

/-- A text reads alike up to either of two numbers exactly if it does not spell one between them. -/
theorem naturalUpTo?_eq_iff {here there : Nat} : naturalUpTo? here s = naturalUpTo? there s ↔
    ∀ plus zeros n, s = spelled plus zeros n → (n ≤ here ↔ n ≤ there) := by
  constructor
  · intro h plus zeros n hs
    have hspells : ∃ plus zeros, s = spelled plus zeros n := ⟨plus, zeros, hs⟩
    have hread (largest : Nat) : naturalUpTo? largest s = some n ↔ n ≤ largest := by
      rw [naturalUpTo?_eq_some_iff, and_iff_left hspells]
    rw [← hread, ← hread, h]
  · intro h
    refine Option.ext fun n => ?_
    rw [naturalUpTo?_eq_some_iff, naturalUpTo?_eq_some_iff]
    exact and_congr_left fun ⟨plus, zeros, hs⟩ => h plus zeros n hs

end Text

/-! ## Whole numbers in the script -/

namespace Script.Grammar

/-- The number that decimal digits write, at least one of them. -/
def digits? (cs : List Char) : Option Nat :=
  if cs.isEmpty || ! cs.all Char.isDigit then none else some (Nat.ofDigitChars 10 cs 0)

/-- The number that the digits of a numeral write.  In a module, several digits do not begin with a zero. -/
def unpadded? : List Char → Option Nat
  | '0' :: _ :: _ => none
  | cs => digits? cs

/-- A number with a sign in front or none. -/
def signed? (unsigned? : List Char → Option Nat) : List Char → Option Int
  | '+' :: cs => (unsigned? cs).map Int.ofNat
  | '-' :: cs => (unsigned? cs).map fun n => -Int.ofNat n
  | cs => (unsigned? cs).map Int.ofNat

/-- The whole number that a numeral of a module denotes, with a sign in front of it or none. -/
def numeral? (s : String) : Option Int := signed? unpadded? s.toList

/-- The whole number that `BigInt` makes of a text in decimal. -/
def bigInt? (s : String) : Option Int := signed? digits? s.toList

variable {plus : Bool} {zeros n : Nat}

theorem signed?_spelled (unsigned? : List Char → Option Nat) :
    signed? unsigned? (Text.spelled plus zeros n).toList =
      (unsigned? (List.replicate zeros '0' ++ Nat.toDigits 10 n)).map Int.ofNat := by
  rw [Text.toList_spelled]
  cases plus with
  | true => rfl
  | false =>
    rw [if_neg Bool.false_ne_true, List.nil_append]
    have hdigit {c : Char} {cs : List Char}
        (h : List.replicate zeros '0' ++ Nat.toDigits 10 n = c :: cs) : c.isDigit = true :=
      Text.isDigit_of_mem_zeros (h ▸ List.mem_cons_self)
    unfold signed?
    split
    · rename_i heq
      exact absurd (hdigit heq) (by decide)
    · rename_i heq
      exact absurd (hdigit heq) (by decide)
    · rfl

theorem digits?_zeros (zeros n : Nat) :
    digits? (List.replicate zeros '0' ++ Nat.toDigits 10 n) = some n := by
  have hall : (List.replicate zeros '0' ++ Nat.toDigits 10 n).all Char.isDigit = true :=
    List.all_eq_true.mpr fun c hc => Text.isDigit_of_mem_zeros hc
  simp [digits?, hall, Text.ofDigitChars_zeros, Nat.toDigits_ne_nil]

/-- Zeros in front change nothing. -/
theorem bigInt?_spelled : bigInt? (Text.spelled plus zeros n) = some (n : Int) := by
  rw [bigInt?, signed?_spelled, digits?_zeros]
  rfl

theorem unpadded?_toDigits (n : Nat) : unpadded? (Nat.toDigits 10 n) = some n := by
  unfold unpadded?
  split
  · rename_i heq
    -- only zero begins with a zero, and it has no other digit
    have hzero : n = 0 := Json.Reader.head_toDigits n (by rw [heq]; rfl)
    rw [hzero] at heq
    exact absurd (congrArg List.length heq) (by simp)
  · exact digits?_zeros 0 n

/-- With zeros in front there is no numeral. -/
theorem numeral?_spelled :
    numeral? (Text.spelled plus zeros n) = if zeros = 0 then some (n : Int) else none := by
  rw [numeral?, signed?_spelled]
  cases zeros with
  | zero =>
    rw [List.replicate_zero, List.nil_append, unpadded?_toDigits]
    rfl
  | succ zeros =>
    rw [List.replicate_succ, List.cons_append, if_neg (Nat.succ_ne_zero zeros)]
    obtain ⟨c, cs, htail⟩ := List.exists_cons_of_ne_nil
      (List.append_ne_nil_of_right_ne_nil (List.replicate zeros '0') (Nat.toDigits_ne_nil (b := 10) (n := n)))
    rw [htail]
    rfl

end Script.Grammar

end Flowline
