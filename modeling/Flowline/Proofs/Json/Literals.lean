import Flowline.Json.Reader
import Flowline.Json.Printer
import Mathlib.Algebra.Order.Monoid.Unbundled.Pow
import Mathlib.Data.List.Basic

/-!
# Strings and numbers read back

`Reads` says that a reader takes a text for some value wherever a value may stand in a document.  A string
literal is read character by character as it was written, and a whole number digit by digit.
-/

namespace Flowline.Json.Reader

variable {α : Type}

/-- What follows a value in a document: a comma, a closing bracket or brace, or nothing. -/
def Ends (rest : List Char) : Prop := ∀ c ∈ rest.head?, c = ',' ∨ c = ']' ∨ c = '\x7d'

/-- A reader takes a text for `x`, whatever follows it in a document. -/
def Reads (read : Reader α) (text : List Char) (x : α) : Prop :=
  ∀ rest, Ends rest → read (text ++ rest) = .ok (x, rest)

theorem ends_nil : Ends [] := fun _ hc => by cases hc

theorem ends_comma (rest : List Char) : Ends (',' :: rest) := by
  intro c hc
  obtain rfl := Option.some.inj hc
  exact Or.inl rfl

theorem ends_close (rest : List Char) : Ends (']' :: rest) := by
  intro c hc
  obtain rfl := Option.some.inj hc
  exact Or.inr (Or.inl rfl)

theorem ends_brace (rest : List Char) : Ends ('\x7d' :: rest) := by
  intro c hc
  obtain rfl := Option.some.inj hc
  exact Or.inr (Or.inr rfl)

/-! ## Strings -/

theorem hexValue?_hexDigit : ∀ n < 16, Text.hexValue? (hexDigit n) = some n := by decide

theorem hasFourBytes_escape (cs : List Char) : ∀ a < 2, ∀ b < 16,
    hasFourBytes ('0' :: '0' :: hexDigit a :: hexDigit b :: cs) = true := by
  have h : ∀ a < 2, ∀ b < 16, hasFourBytes ['0', '0', hexDigit a, hexDigit b] = true := by decide
  exact h

/-- A character is read from what it is written as. -/
theorem text_escapeChar (c : Char) (acc cs : List Char) :
    text .plain acc (escapeChar c ++ cs) = text .plain (c :: acc) cs := by
  unfold escapeChar
  split_ifs with hquote hslash hn hr ht hb hf hlow
  · rw [hquote]; rfl
  · rw [hslash]; rfl
  · rw [hn]; rfl
  · rw [hr]; rfl
  · rw [ht]; rfl
  · rw [hb]; rfl
  · rw [hf]; rfl
  · have hhigh : c.toNat / 16 < 2 := by omega
    have hmod : c.toNat % 16 < 16 := Nat.mod_lt _ (by decide)
    have hc : 16 * (c.toNat / 16) + c.toNat % 16 = c.toNat := Nat.div_add_mod _ _
    have hfour := hasFourBytes_escape cs _ hhigh _ hmod
    have h0 : Text.hexValue? '0' = some 0 := rfl
    have h1 := hexValue?_hexDigit (c.toNat / 16) (by omega)
    have h2 := hexValue?_hexDigit (c.toNat % 16) hmod
    have hnotLow : isLowSurrogate c.toNat = false := by
      simp [isLowSurrogate]
      omega
    have hnotHigh : isHighSurrogate c.toNat = false := by
      simp [isHighSurrogate]
      omega
    simp only [List.cons_append, List.nil_append]
    simp [text, hfour, h0, h1, h2, hc, hnotLow, hnotHigh, Char.ofNat_toNat]
  · simp [text, hquote, hslash, hlow]

/-- A literal is read up to its closing quote. -/
theorem text_flatMap_escapeChar (cs acc rest : List Char) :
    text .plain acc (cs.flatMap escapeChar ++ '"' :: rest) =
      .ok (String.ofList (acc.reverse ++ cs), rest) := by
  induction cs generalizing acc with
  | nil => simp [text]
  | cons c cs ih =>
    rw [List.flatMap_cons, List.append_assoc, text_escapeChar, ih]
    simp

theorem textTail_quote (s : String) (rest : List Char) :
    textTail (s.toList.flatMap escapeChar ++ '"' :: rest) = .ok (s, rest) := by
  rw [textTail, text_flatMap_escapeChar, List.reverse_nil, List.nil_append, String.ofList_toList]

/-! ## Numbers -/

theorem le_ofDigitChars (ds : List Char) (n : Nat) : n ≤ Nat.ofDigitChars 10 ds n := by
  rw [Nat.ofDigitChars_eq_ofDigitChars_zero]
  have hpos : 1 ≤ 10 ^ ds.length := Nat.one_le_pow _ _ (by decide)
  calc n = 1 * n := (Nat.one_mul n).symm
    _ ≤ 10 ^ ds.length * n := Nat.mul_le_mul_right n hpos
    _ ≤ _ := Nat.le_add_right _ _

/-- Digits are absorbed to the last one as long as their number fits. -/
theorem absorb_eq (ds : List Char) (n : Nat) (h : Nat.ofDigitChars 10 ds n ≤ Text.maxWord) :
    absorb n ds = (Nat.ofDigitChars 10 ds n, 0) := by
  induction ds generalizing n with
  | nil => rfl
  | cons d ds ih =>
    rw [Nat.ofDigitChars_cons] at h ⊢
    rw [absorb, if_pos ((le_ofDigitChars _ _).trans h), ih _ h]

/-- No number but zero is written with a zero in front. -/
theorem head_toDigits (n : Nat) (h : (Nat.toDigits 10 n).head? = some '0') : n = 0 := by
  induction n using Nat.base_induction 10 (by decide) with
  | single m hm => simpa [Nat.toDigits_of_lt_base hm] using h
  | digit m k hk hm ih =>
    rw [← Nat.toDigits_append_toDigits (by decide) hm hk,
      List.head?_append_of_ne_nil _ Nat.toDigits_ne_nil] at h
    exact absurd (ih h) (Nat.ne_of_gt hm)

/-- What follows a value is no part of a number. -/
theorem span_of_ends {ds rest : List Char} (hds : ∀ c ∈ ds, c.isDigit = true) (h : Ends rest) :
    (ds ++ rest).takeWhile Char.isDigit = ds ∧ (ds ++ rest).dropWhile Char.isDigit = rest := by
  have hrest : rest.takeWhile Char.isDigit = [] ∧ rest.dropWhile Char.isDigit = rest := by
    cases rest with
    | nil => exact ⟨rfl, rfl⟩
    | cons c rest => rcases h c rfl with rfl | rfl | rfl <;> exact ⟨rfl, rfl⟩
  rw [List.takeWhile_append_of_pos hds, List.dropWhile_append_of_pos hds, hrest.1, hrest.2]
  exact ⟨List.append_nil _, rfl⟩

/-- Digits that do not begin with a zero are all taken. -/
theorem wholePart_cons {d : Char} (hzero : d ≠ '0') (hd : d.isDigit = true) (cs : List Char) :
    wholePart (d :: cs) =
      .ok ((d :: cs).takeWhile Char.isDigit, (d :: cs).dropWhile Char.isDigit) := by
  unfold wholePart
  split
  · rename_i heq
    cases heq
  · rename_i heq
    exact absurd (List.cons.inj heq).1 hzero
  · rename_i heq
    obtain ⟨rfl, -⟩ := List.cons.inj heq
    rw [if_pos hd]

theorem wholePart_toDigits (n : Nat) {rest : List Char} (h : Ends rest) :
    wholePart (Nat.toDigits 10 n ++ rest) = .ok (Nat.toDigits 10 n, rest) := by
  by_cases hn : n = 0
  · subst hn
    cases rest with
    | nil => rfl
    | cons c rest => rcases h c rfl with rfl | rfl | rfl <;> rfl
  · have hall : ∀ c ∈ Nat.toDigits 10 n, c.isDigit = true := fun c hc =>
      Nat.isDigit_of_mem_toDigits (by decide) (by decide) hc
    obtain ⟨htake, hdrop⟩ := span_of_ends hall h
    cases hdigits : Nat.toDigits 10 n with
    | nil => exact absurd hdigits Nat.toDigits_ne_nil
    | cons d ds =>
      rw [hdigits] at htake hdrop
      have hzero : d ≠ '0' := fun hd => hn (head_toDigits n (by rw [hdigits, hd]; rfl))
      have hd : d.isDigit = true := hall d (by rw [hdigits]; exact List.mem_cons_self)
      rw [List.cons_append, wholePart_cons hzero hd, ← List.cons_append, htake, hdrop]

theorem unsigned_toDigits {n : Nat} (hn : n ≤ Text.maxWord) (negative : Bool) {rest : List Char}
    (h : Ends rest) :
    unsigned negative (Nat.toDigits 10 n ++ rest) = .ok (whole negative n, rest) := by
  have habsorb : absorb 0 (Nat.toDigits 10 n) = (n, 0) := by
    rw [absorb_eq _ _ (by rwa [Nat.ofDigitChars_ten_toDigits]), Nat.ofDigitChars_ten_toDigits]
  rw [unsigned, wholePart_toDigits n h]
  simp only [bind, Except.bind, habsorb]
  split
  · exact absurd (h _ rfl) (by decide)
  · exact absurd (h _ rfl) (by decide)
  · exact absurd (h _ rfl) (by decide)
  · rfl

theorem number_toDigits (n : Nat) (rest : List Char) :
    number (Nat.toDigits 10 n ++ rest) = unsigned false (Nat.toDigits 10 n ++ rest) := by
  unfold number
  split
  · rename_i cs hcs
    cases hdigits : Nat.toDigits 10 n with
    | nil => exact absurd hdigits Nat.toDigits_ne_nil
    | cons d ds =>
      have hd : d.isDigit = true :=
        Nat.isDigit_of_mem_toDigits (by decide) (by decide) (hdigits ▸ List.mem_cons_self)
      rw [hdigits, List.cons_append] at hcs
      rw [(List.cons.inj hcs).1] at hd
      exact absurd hd (by decide)
  · rfl

/-- A whole number of 64 bits is read from its digits. -/
theorem reads_number {n : Int} (hlow : -0x8000000000000000 ≤ n) (hhigh : n ≤ Text.maxWord) :
    Reads number (Number.int n).render.toList (.int n) := by
  intro rest h
  rw [Number.render, Int.toString_eq_repr, Int.repr_eq_if]
  split
  · rename_i hn
    rw [Nat.toList_repr, number_toDigits, unsigned_toDigits (by omega) false h, whole,
      if_pos (by decide), Int.toNat_of_nonneg hn]
  · rename_i hn
    have hmax : Text.maxWord = 0xFFFFFFFFFFFFFFFF := rfl
    have hdigits : "-".toList = ['-'] := rfl
    rw [String.toList_append, Nat.toList_repr, hdigits]
    simp only [List.cons_append, List.nil_append, number]
    rw [unsigned_toDigits (by omega) true h, whole, if_neg (by decide), if_neg]
    · rw [Int.toNat_of_nonneg (by omega), Int.neg_neg]
    · simp
      omega

end Flowline.Json.Reader
