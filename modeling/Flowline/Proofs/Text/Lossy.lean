import Flowline.Text.Utf8
import Mathlib.Algebra.GroupWithZero.Nat
import Mathlib.Data.List.Basic
import Mathlib.Tactic.SplitIfs

/-!
# Stretches of ill-formed text

Bytes that need not be UTF-8 are read in stretches: the bytes of a character, or, where no character stands, the
longest beginning of one, and a single byte if there is none.  `Lossy` says which stretches some bytes have, and
there is one way only (`Lossy.unique`); `chars` reads one character for each (`exists_lossy`).  What it keeps
between two bytes is what may follow to make a character of those it has read (`Reads`).
-/

namespace Flowline.Text.Utf8

open String (utf8EncodeChar)

/-! ## The bytes of characters -/

/-- The last bytes of a character, six bits in each. -/
def tails (v : Nat) : Nat → List UInt8
  | 0 => []
  | k + 1 => UInt8.ofNat (v / 64 ^ k % 64 + 0x80) :: tails v k

theorem toNat_cases (c : Char) : c.toNat < 0xD800 ∨ (0xDFFF < c.toNat ∧ c.toNat < 0x110000) := c.valid

theorem utf8EncodeChar_eq (c : Char) :
    utf8EncodeChar c =
      if c.toNat < 0x80 then [UInt8.ofNat c.toNat]
      else if c.toNat < 0x800 then UInt8.ofNat (c.toNat / 64 + 0xC0) :: tails c.toNat 1
      else if c.toNat < 0x10000 then UInt8.ofNat (c.toNat / 4096 + 0xE0) :: tails c.toNat 2
      else UInt8.ofNat (c.toNat / 262144 + 0xF0) :: tails c.toNat 3 := by
  have hvalid := toNat_cases c
  have hv : c.val.toNat = c.toNat := rfl
  simp only [utf8EncodeChar, hv, tails]
  split_ifs
  all_goals try omega
  · rfl
  · rw [Nat.mod_eq_of_lt (show c.toNat / 64 < 0x20 by omega)]
    simp
  · rw [Nat.mod_eq_of_lt (show c.toNat / 4096 < 0x10 by omega)]
    simp
  · rw [Nat.mod_eq_of_lt (show c.toNat / 262144 < 0x08 by omega)]
    simp

/-- Some bytes stand at the beginning of a character. -/
def Begins (bytes : List UInt8) : Prop := ∃ c, bytes <+: utf8EncodeChar c

/-- What the first byte of a character says of it. -/
theorem cases_of_begins {b : UInt8} {c : Char} (h : [b] <+: utf8EncodeChar c) :
    (c.toNat < 0x80 ∧ b.toNat = c.toNat) ∨
    (0x80 ≤ c.toNat ∧ c.toNat < 0x800 ∧ b.toNat = c.toNat / 64 + 0xC0) ∨
    (0x800 ≤ c.toNat ∧ c.toNat < 0x10000 ∧ b.toNat = c.toNat / 4096 + 0xE0) ∨
    (0x10000 ≤ c.toNat ∧ b.toNat = c.toNat / 262144 + 0xF0) := by
  have hvalid := toNat_cases c
  have hhead : ∀ {n : Nat} {bs : List UInt8}, n < 256 → [b] <+: UInt8.ofNat n :: bs → b.toNat = n := by
    intro n bs hn hpre
    rw [(List.cons_prefix_cons.mp hpre).1, UInt8.toNat_ofNat', Nat.mod_eq_of_lt hn]
  rw [utf8EncodeChar_eq] at h
  split_ifs at h with h1 h2 h3
  · exact Or.inl ⟨h1, hhead (by omega) h⟩
  · exact Or.inr (Or.inl ⟨by omega, h2, hhead (by omega) h⟩)
  · exact Or.inr (Or.inr (Or.inl ⟨by omega, h3, hhead (by omega) h⟩))
  · exact Or.inr (Or.inr (Or.inr ⟨by omega, hhead (by omega) h⟩))

/-- No character begins with another one. -/
theorem eq_of_isPrefix {c d : Char} (h : utf8EncodeChar c <+: utf8EncodeChar d) : c = d := by
  obtain ⟨rest, hrest⟩ := h
  have hc := ByteArray.utf8DecodeChar?_utf8EncodeChar_append (b := rest.toByteArray) (c := c)
  have hd := ByteArray.utf8DecodeChar?_utf8EncodeChar_append (b := ByteArray.empty) (c := d)
  rw [← List.toByteArray_append, hrest] at hc
  simp at hd
  exact Option.some.inj (hc.symm.trans hd)

/-! ## What a first byte announces -/

theorem toNat_ofNat_of_valid {v : Nat} (h : v.isValidChar) : (Char.ofNat v).toNat = v := by
  rw [Char.ofNat, dif_pos h]
  rfl

/-- The bytes read so far begin some characters, and `p` says how these go on: with one byte, and `m` more. -/
structure Reads (p : Pending) (m : Nat) (read : List UInt8) : Prop where
  missing : p.missing = m + 1
  low : 0x80 ≤ p.low
  low_le_high : p.low ≤ p.high
  high : p.high ≤ 0xBF
  ne_nil : read ≠ []
  sound {v : Nat} (hbits : v / 64 ^ (m + 1) = p.bits) (hlow : p.low ≤ v / 64 ^ m % 64 + 0x80)
    (hhigh : v / 64 ^ m % 64 + 0x80 ≤ p.high) :
    v.isValidChar ∧ utf8EncodeChar (Char.ofNat v) = read ++ tails v (m + 1)
  complete {c : Char} (h : read <+: utf8EncodeChar c) :
    c.toNat / 64 ^ (m + 1) = p.bits ∧ p.low ≤ c.toNat / 64 ^ m % 64 + 0x80 ∧
      c.toNat / 64 ^ m % 64 + 0x80 ≤ p.high ∧ utf8EncodeChar c = read ++ tails c.toNat (m + 1)

/-- A first byte that gives the topmost bits of characters from `least` up to `most`. -/
theorem reads_lead {b : UInt8} {bits low high m mark : Nat} (least most : Nat) (hb : b.toNat = bits + mark)
    (hlow : 0x80 ≤ low) (hlh : low ≤ high) (hhigh : high ≤ 0xBF)
    (hencode : ∀ c : Char, least ≤ c.toNat → c.toNat < most →
      utf8EncodeChar c = UInt8.ofNat (c.toNat / 64 ^ (m + 1) + mark) :: tails c.toNat (m + 1))
    (hfirst : ∀ c, [b] <+: utf8EncodeChar c → least ≤ c.toNat ∧ c.toNat < most ∧ c.toNat / 64 ^ (m + 1) = bits)
    (hnext : ∀ v, v / 64 ^ (m + 1) = bits →
      (low ≤ v / 64 ^ m % 64 + 0x80 ∧ v / 64 ^ m % 64 + 0x80 ≤ high ↔ least ≤ v ∧ v < most ∧ v.isValidChar)) :
    Reads ⟨bits, m + 1, low, high⟩ m [b] where
  missing := rfl
  low := hlow
  low_le_high := hlh
  high := hhigh
  ne_nil := List.cons_ne_nil _ _
  sound {v} hbits hl hh := by
    obtain ⟨hleast, hmost, hvalid⟩ := (hnext v hbits).mp ⟨hl, hh⟩
    have hv := toNat_ofNat_of_valid hvalid
    have hcode := hencode (Char.ofNat v) (by omega) (by omega)
    rw [hv, hbits, ← hb, UInt8.ofNat_toNat] at hcode
    exact ⟨hvalid, hcode⟩
  complete {c} h := by
    obtain ⟨hleast, hmost, hbits⟩ := hfirst c h
    obtain ⟨hl, hh⟩ := (hnext c.toNat hbits).mpr ⟨hleast, hmost, toNat_cases c⟩
    have hcode := hencode c hleast hmost
    rw [hbits, ← hb, UInt8.ofNat_toNat] at hcode
    exact ⟨hbits, hl, hh, hcode⟩

theorem reads_two {b : UInt8} {bits : Nat} (hb : b.toNat = bits + 0xC0) (hlow : 2 ≤ bits) (hhigh : bits < 32) :
    Reads ⟨bits, 1, 0x80, 0xBF⟩ 0 [b] := by
  refine reads_lead 0x80 0x800 hb (by decide) (by decide) (by decide) ?_ ?_ ?_
  · intro c hleast hmost
    rw [utf8EncodeChar_eq, if_neg (by omega), if_pos hmost, Nat.zero_add, Nat.pow_one]
  · intro c hc
    have hcases := cases_of_begins hc
    have hvalid := toNat_cases c
    simp only [Nat.zero_add, Nat.pow_one]
    omega
  · intro v hv
    simp only [Nat.zero_add, Nat.pow_one, Nat.pow_zero, Nat.div_one, Nat.isValidChar] at hv ⊢
    omega

theorem reads_three {b : UInt8} {bits low high : Nat} (hb : b.toNat = bits + 0xE0) (hbits : bits < 16)
    (hlow : low = if bits = 0 then 0xA0 else 0x80) (hhigh : high = if bits = 0xD then 0x9F else 0xBF) :
    Reads ⟨bits, 2, low, high⟩ 1 [b] := by
  refine reads_lead 0x800 0x10000 hb (by split_ifs at hlow <;> omega)
    (by split_ifs at hlow hhigh <;> omega) (by split_ifs at hhigh <;> omega) ?_ ?_ ?_
  · intro c hleast hmost
    rw [utf8EncodeChar_eq, if_neg (by omega), if_neg (by omega), if_pos hmost]
    rfl
  · intro c hc
    have hcases := cases_of_begins hc
    have hvalid := toNat_cases c
    omega
  · intro v hv
    simp only [Nat.isValidChar]
    split_ifs at hlow hhigh <;> omega

theorem reads_four {b : UInt8} {bits low high : Nat} (hb : b.toNat = bits + 0xF0) (hbits : bits < 5)
    (hlow : low = if bits = 0 then 0x90 else 0x80) (hhigh : high = if bits = 4 then 0x8F else 0xBF) :
    Reads ⟨bits, 3, low, high⟩ 2 [b] := by
  refine reads_lead 0x10000 0x110000 hb (by split_ifs at hlow <;> omega)
    (by split_ifs at hlow hhigh <;> omega) (by split_ifs at hhigh <;> omega) ?_ ?_ ?_
  · intro c hleast hmost
    rw [utf8EncodeChar_eq, if_neg (by omega), if_neg (by omega), if_neg (by omega)]
    rfl
  · intro c hc
    have hcases := cases_of_begins hc
    have hvalid := toNat_cases c
    omega
  · intro v hv
    simp only [Nat.isValidChar]
    split_ifs at hlow hhigh <;> omega

/-- What a first byte announces is what the characters have in common that begin with it. -/
inductive Announces (b : UInt8) : Lead → Prop
  | char {c : Char} (h : utf8EncodeChar c = [b]) : Announces b (.char c)
  | more {p : Pending} {m : Nat} (h : Reads p m [b]) : Announces b (.more p)
  | bad (h : ¬Begins [b]) : Announces b .bad

theorem announces_lead (b : UInt8) : Announces b (lead b) := by
  have hb := b.toNat_lt
  simp only [lead, Bool.and_eq_true, decide_eq_true_eq, beq_iff_eq]
  split_ifs with h1 h2 h3 h4 h5 h6 h7 h8
  · have hv := toNat_ofNat_of_valid (show b.toNat.isValidChar from Or.inl (by omega))
    refine .char ?_
    rw [utf8EncodeChar_eq, hv, if_pos h1, UInt8.ofNat_toNat]
  · exact .more (reads_two (by omega) (by omega) (by omega))
  · exact .more (reads_three h3 (by decide) rfl rfl)
  · exact .more (reads_three (by omega) (by decide) rfl rfl)
  · exact .more (reads_three (by omega) (by omega) (if_neg (by omega)).symm (if_neg (by omega)).symm)
  · exact .more (reads_four (by omega) (by decide) rfl rfl)
  · exact .more (reads_four (by omega) (by decide) rfl rfl)
  · exact .more (reads_four (by omega) (by omega) (if_neg (by omega)).symm (if_neg (by omega)).symm)
  · refine .bad fun ⟨c, hc⟩ => ?_
    have hcases := cases_of_begins hc
    have hvalid := toNat_cases c
    omega

/-! ## What a next byte adds -/

section Next

variable {p : Pending} {m : Nat} {read : List UInt8} {b : UInt8}

theorem ofNat_toNat_sub_add (h : 0x80 ≤ b.toNat) : UInt8.ofNat (b.toNat - 0x80 + 0x80) = b := by
  rw [Nat.sub_add_cancel h, UInt8.ofNat_toNat]

theorem Reads.char (h : Reads p 0 read) (hlow : p.low ≤ b.toNat) (hhigh : b.toNat ≤ p.high) :
    utf8EncodeChar (Char.ofNat (64 * p.bits + (b.toNat - 0x80))) = read ++ [b] := by
  have hl := h.low
  have hh := h.high
  have hmod : (64 * p.bits + (b.toNat - 0x80)) % 64 = b.toNat - 0x80 := by omega
  have hcode := (h.sound (v := 64 * p.bits + (b.toNat - 0x80)) (by omega) (by omega) (by omega)).2
  rwa [tails, tails, Nat.pow_zero, Nat.div_one, hmod, ofNat_toNat_sub_add (by omega)] at hcode

theorem Reads.more (h : Reads p (m + 1) read) (hlow : p.low ≤ b.toNat) (hhigh : b.toNat ≤ p.high) :
    Reads ⟨64 * p.bits + (b.toNat - 0x80), m + 1, 0x80, 0xBF⟩ m (read ++ [b]) := by
  have hl := h.low
  have hh := h.high
  have hdiv : ∀ v : Nat, v / 64 ^ (m + 2) = v / 64 ^ (m + 1) / 64 := by
    intro v
    rw [Nat.div_div_eq_div_mul, ← Nat.pow_succ]
  refine ⟨rfl, Nat.le_refl _, (by decide : 0x80 ≤ 0xBF), Nat.le_refl _, by simp, ?_, ?_⟩
  · intro v hbits _ _
    simp only at hbits
    have hsound := h.sound (v := v) (by rw [hdiv]; omega) (by omega) (by omega)
    have hmod : v / 64 ^ (m + 1) % 64 = b.toNat - 0x80 := by omega
    rwa [tails, hmod, ofNat_toNat_sub_add (by omega), List.append_cons] at hsound
  · intro c hc
    obtain ⟨hbits, hlow', hhigh', hcode⟩ := h.complete ((List.prefix_append read [b]).trans hc)
    rw [hcode, List.prefix_append_right_inj, tails, List.cons_prefix_cons] at hc
    have hb : b.toNat = c.toNat / 64 ^ (m + 1) % 64 + 0x80 := by
      rw [hc.1, UInt8.toNat_ofNat', Nat.mod_eq_of_lt (by omega)]
    rw [hdiv] at hbits
    have hmod : c.toNat / 64 ^ m % 64 < 64 := Nat.mod_lt _ (by decide)
    rw [tails, ← hc.1, List.append_cons] at hcode
    exact ⟨by simp only; omega, by simp only; omega, by simp only; omega, hcode⟩

theorem Reads.begins (h : Reads p m read) : Begins read := by
  have hl := h.low
  have hh := h.high
  have hlh := h.low_le_high
  have hpos : 0 < 64 ^ m := Nat.pow_pos (by decide)
  have hv : (64 ^ m * (64 * p.bits + (p.low - 0x80))) / 64 ^ m = 64 * p.bits + (p.low - 0x80) :=
    Nat.mul_div_cancel_left _ hpos
  have hbits : (64 ^ m * (64 * p.bits + (p.low - 0x80))) / 64 ^ (m + 1) = p.bits := by
    rw [Nat.pow_succ, ← Nat.div_div_eq_div_mul, hv]
    omega
  have hcode := (h.sound hbits (by rw [hv]; omega) (by rw [hv]; omega)).2
  exact ⟨_, hcode ▸ List.prefix_append _ _⟩

/-- A byte out of bounds goes on none of the characters. -/
theorem Reads.not_begins (h : Reads p m read) (hb : ¬(p.low ≤ b.toNat ∧ b.toNat ≤ p.high)) :
    ¬Begins (read ++ [b]) := by
  rintro ⟨c, hc⟩
  have hh := h.high
  obtain ⟨_, hlow, hhigh, hcode⟩ := h.complete ((List.prefix_append read [b]).trans hc)
  rw [hcode, List.prefix_append_right_inj, tails, List.cons_prefix_cons] at hc
  have hmod : b.toNat = c.toNat / 64 ^ m % 64 + 0x80 := by
    rw [hc.1, UInt8.toNat_ofNat', Nat.mod_eq_of_lt (by omega)]
  exact hb (by omega)

/-- Some bytes are missing. -/
theorem Reads.ne_char (h : Reads p m read) (c : Char) : read ≠ utf8EncodeChar c := by
  intro hc
  have hpre : read <+: utf8EncodeChar c := hc ▸ List.prefix_rfl
  have hcode := (h.complete hpre).2.2.2
  rw [← hc] at hcode
  simp [tails] at hcode

end Next

/-! ## Stretches -/

/-- Bytes that are read as one character. -/
inductive Stretch
  | whole (c : Char)
  | broken (bytes : List UInt8)

namespace Stretch

def bytes : Stretch → List UInt8
  | whole c => utf8EncodeChar c
  | broken bytes => bytes

def char : Stretch → Char
  | whole c => c
  | broken _ => replacement

/-- How much longer the character is than the bytes it stands for. -/
def growth : Stretch → Nat
  | whole _ => 0
  | broken bytes => replacement.utf8Size - bytes.length

end Stretch

/-- No character stands before `rest`, but as much of the beginning of one as there is, or a byte that begins
none. -/
structure Broken (bytes rest : List UInt8) : Prop where
  ne_nil : bytes ≠ []
  begins : bytes.length = 1 ∨ Begins bytes
  not_char (c : Char) : ¬utf8EncodeChar c <+: bytes ++ rest
  longest {b : UInt8} (h : rest.head? = some b) : ¬Begins (bytes ++ [b])

/-- The stretches of some bytes. -/
inductive Lossy : List UInt8 → List Stretch → Prop
  | nil : Lossy [] []
  | whole {rest : List UInt8} {ss : List Stretch} (c : Char) (hrest : Lossy rest ss) :
    Lossy (utf8EncodeChar c ++ rest) (.whole c :: ss)
  | broken {bytes rest : List UInt8} {ss : List Stretch} (hbroken : Broken bytes rest) (hrest : Lossy rest ss) :
    Lossy (bytes ++ rest) (.broken bytes :: ss)

section Stretches

variable {bytes bytes' rest rest' : List UInt8} {ss ss' : List Stretch}

/-- Bytes begin with one character at most. -/
theorem append_inj_char {c d : Char} (h : utf8EncodeChar c ++ rest = utf8EncodeChar d ++ rest') :
    c = d ∧ rest = rest' := by
  have hcd : c = d := by
    have hd : utf8EncodeChar d <+: utf8EncodeChar c ++ rest := h ▸ List.prefix_append _ rest'
    rcases List.prefix_or_prefix_of_prefix (List.prefix_append _ rest) hd with hc | hd
    · exact eq_of_isPrefix hc
    · exact (eq_of_isPrefix hd).symm
  subst hcd
  exact ⟨rfl, List.append_cancel_left h⟩

/-- A byte that begins no character stands alone. -/
theorem broken_of_not_begins {b : UInt8} (h : ¬Begins [b]) : Broken [b] rest := by
  have hnot : ∀ {more : List UInt8}, ¬Begins ([b] ++ more) := fun ⟨c, hc⟩ =>
    h ⟨c, (List.prefix_append _ _).trans hc⟩
  refine ⟨List.cons_ne_nil _ _, Or.inl rfl, ?_, fun _ => hnot⟩
  intro c hc
  have hlength : [b].length ≤ (utf8EncodeChar c).length := by simp [Char.utf8Size_pos, Nat.succ_le_iff]
  have hfirst : [b] <+: utf8EncodeChar c :=
    List.prefix_of_prefix_length_le (List.prefix_append [b] rest) hc hlength
  exact h ⟨c, hfirst⟩

theorem broken_of_begins (hne : bytes ≠ []) (hbegins : Begins bytes) (hchar : ∀ c, bytes ≠ utf8EncodeChar c)
    (hlongest : ∀ {b}, rest.head? = some b → ¬Begins (bytes ++ [b])) : Broken bytes rest := by
  refine ⟨hne, Or.inr hbegins, ?_, hlongest⟩
  intro c hc
  rcases Nat.le_total (utf8EncodeChar c).length bytes.length with hlen | hlen
  · -- a shorter character would be another one at the beginning of the one begun
    have hc : utf8EncodeChar c <+: bytes := List.prefix_of_prefix_length_le hc (List.prefix_append _ _) hlen
    obtain ⟨d, hd⟩ := hbegins
    obtain rfl := eq_of_isPrefix (hc.trans hd)
    exact hchar c (hd.eq_of_length_le hc.length_le)
  · obtain ⟨more, hmore⟩ := List.prefix_of_prefix_length_le (List.prefix_append bytes rest) hc hlen
    cases more with
    | nil => exact hchar c (by simpa using hmore)
    | cons b more =>
      rw [← hmore, List.prefix_append_right_inj] at hc
      have hhead : rest.head? = some b := by
        obtain ⟨tail, rfl⟩ := hc
        rfl
      exact hlongest hhead ⟨c, more, by simpa using hmore⟩

/-- There are no two ways to break off. -/
theorem Broken.length_le (h : Broken bytes rest) (h' : Broken bytes' rest')
    (heq : bytes ++ rest = bytes' ++ rest') : bytes'.length ≤ bytes.length := by
  by_contra hlt
  have hlonger : bytes.length < bytes'.length := Nat.lt_of_not_le hlt
  obtain ⟨more, rfl⟩ := List.prefix_of_prefix_length_le (heq ▸ List.prefix_append bytes rest)
    (List.prefix_append bytes' rest') (Nat.le_of_lt hlonger)
  cases more with
  | nil => simp at hlonger
  | cons b more =>
    have hrest : rest = b :: more ++ rest' := by simpa using heq
    have hlength : (bytes ++ b :: more).length ≠ 1 := by
      have := List.length_pos_iff.mpr h.ne_nil
      simp only [List.length_append, List.length_cons]
      omega
    obtain ⟨c, hc⟩ := h'.begins.resolve_left hlength
    have hpre : bytes ++ [b] <+: bytes ++ b :: more := by simp [List.cons_prefix_cons]
    exact h.longest (by simp [hrest]) ⟨c, hpre.trans hc⟩

theorem Broken.unique (h : Broken bytes rest) (h' : Broken bytes' rest')
    (heq : bytes ++ rest = bytes' ++ rest') : bytes = bytes' ∧ rest = rest' :=
  List.append_inj heq (Nat.le_antisymm (h'.length_le h heq.symm) (h.length_le h' heq))

/-- Some bytes have their stretches in one way only. -/
theorem Lossy.unique (h : Lossy bytes ss) (h' : Lossy bytes ss') : ss = ss' := by
  induction h generalizing ss' with
  | nil =>
    generalize hbytes : ([] : List UInt8) = bytes at h'
    cases h' with
    | nil => rfl
    | whole c _ => simp at hbytes
    | broken hbroken _ => simp [hbroken.ne_nil] at hbytes
  | @whole rest ss c hrest ih =>
    generalize hbytes : utf8EncodeChar c ++ rest = bytes at h'
    cases h' with
    | nil => simp at hbytes
    | whole d hrest' =>
      obtain ⟨rfl, rfl⟩ := append_inj_char hbytes
      rw [ih hrest']
    | broken hbroken _ => exact absurd (hbytes ▸ List.prefix_append _ _) (hbroken.not_char c)
  | @broken broken rest ss hbroken hrest ih =>
    generalize hbytes : broken ++ rest = bytes at h'
    cases h' with
    | nil => simp [hbroken.ne_nil] at hbytes
    | whole d _ => exact absurd (hbytes ▸ List.prefix_append _ _) (hbroken.not_char d)
    | broken hbroken' hrest' =>
      obtain ⟨rfl, rfl⟩ := hbroken.unique hbroken' hbytes
      rw [ih hrest']

end Stretches

/-! ## Decoding reads the stretches -/

/-- A byte that does not go on as it should ends the character begun, and is read anew. -/
theorem chars_of_not_next {p : Pending} {b : UInt8} {bytes : List UInt8}
    (hb : ¬(p.low ≤ b.toNat ∧ b.toNat ≤ p.high)) :
    chars (some p) (b :: bytes) = replacement :: chars none (b :: bytes) := by
  simp only [chars, Bool.and_eq_true, decide_eq_true_eq, if_neg hb]
  cases lead b <;> rfl

theorem chars_of_char {p : Pending} {b : UInt8} {bytes : List UInt8} (hmissing : p.missing = 1)
    (hb : p.low ≤ b.toNat ∧ b.toNat ≤ p.high) :
    chars (some p) (b :: bytes) = Char.ofNat (64 * p.bits + (b.toNat - 0x80)) :: chars none bytes := by
  simp [chars, hb, hmissing]

theorem chars_of_more {p : Pending} {m : Nat} {b : UInt8} {bytes : List UInt8} (hmissing : p.missing = m + 2)
    (hb : p.low ≤ b.toNat ∧ b.toNat ≤ p.high) :
    chars (some p) (b :: bytes) = chars (some ⟨64 * p.bits + (b.toNat - 0x80), m + 1, 0x80, 0xBF⟩) bytes := by
  simp [chars, hb, hmissing]

/-- Some characters are those of the stretches of some bytes. -/
def ReadAs (bytes : List UInt8) (cs : List Char) : Prop := ∃ ss, Lossy bytes ss ∧ cs = ss.map Stretch.char

theorem ReadAs.whole {bytes : List UInt8} {cs : List Char} (c : Char) (h : ReadAs bytes cs) :
    ReadAs (utf8EncodeChar c ++ bytes) (c :: cs) := by
  obtain ⟨ss, hlossy, rfl⟩ := h
  exact ⟨.whole c :: ss, hlossy.whole c, rfl⟩

theorem ReadAs.broken {bytes rest : List UInt8} {cs : List Char} (hbroken : Broken bytes rest)
    (h : ReadAs rest cs) : ReadAs (bytes ++ rest) (replacement :: cs) := by
  obtain ⟨ss, hlossy, rfl⟩ := h
  exact ⟨.broken bytes :: ss, hlossy.broken hbroken, rfl⟩

theorem Reads.broken {p : Pending} {m : Nat} {read rest : List UInt8} (h : Reads p m read)
    (hrest : ∀ {b}, rest.head? = some b → ¬(p.low ≤ b.toNat ∧ b.toNat ≤ p.high)) : Broken read rest :=
  broken_of_begins h.ne_nil h.begins h.ne_char fun hb => h.not_begins (hrest hb)

/-- By induction on the bytes, between two characters and after the first bytes of one. -/
theorem readAs_chars (bytes : List UInt8) :
    ReadAs bytes (chars none bytes) ∧
    ∀ {p : Pending} {m : Nat} {read : List UInt8}, Reads p m read →
      ReadAs (read ++ bytes) (chars (some p) bytes) := by
  induction bytes with
  | nil =>
    refine ⟨⟨[], .nil, rfl⟩, fun hreads => ?_⟩
    exact ReadAs.broken (hreads.broken (by simp)) ⟨[], .nil, rfl⟩
  | cons b bytes ih =>
    obtain ⟨hnone, hsome⟩ := ih
    have hfirst : ReadAs (b :: bytes) (chars none (b :: bytes)) := by
      have hannounces := announces_lead b
      rw [chars]
      cases hlead : lead b with
      | char c =>
        rw [hlead] at hannounces
        obtain ⟨hc⟩ := hannounces
        simpa [hc] using hnone.whole c
      | more p =>
        rw [hlead] at hannounces
        obtain ⟨⟩ | ⟨hreads⟩ := hannounces
        exact hsome hreads
      | bad =>
        rw [hlead] at hannounces
        obtain ⟨⟩ | ⟨⟩ | ⟨hbad⟩ := hannounces
        exact hnone.broken (broken_of_not_begins hbad)
    refine ⟨hfirst, fun {p m read} hreads => ?_⟩
    by_cases hb : p.low ≤ b.toNat ∧ b.toNat ≤ p.high
    · cases m with
      | zero =>
        rw [chars_of_char hreads.missing hb, List.append_cons, ← hreads.char hb.1 hb.2]
        exact hnone.whole _
      | succ m =>
        rw [chars_of_more hreads.missing hb, List.append_cons]
        exact hsome (hreads.more hb.1 hb.2)
    · rw [chars_of_not_next hb]
      refine hfirst.broken (hreads.broken ?_)
      intro b' hb'
      obtain rfl : b = b' := by simpa using hb'
      exact hb

/-- The text of some bytes has one character for each of their stretches. -/
theorem exists_lossy (bytes : List UInt8) :
    ∃ ss, Lossy bytes ss ∧ decode bytes = String.ofList (ss.map Stretch.char) := by
  obtain ⟨ss, hlossy, hchars⟩ := (readAs_chars bytes).1
  exact ⟨ss, hlossy, congrArg String.ofList hchars⟩

theorem Lossy.decode_eq {bytes : List UInt8} {ss : List Stretch} (h : Lossy bytes ss) :
    decode bytes = String.ofList (ss.map Stretch.char) := by
  obtain ⟨ss', hlossy, hdecode⟩ := exists_lossy bytes
  rw [hdecode, h.unique hlossy]

/-! ## Texts -/

theorem lossy_flatMap (cs : List Char) : Lossy (cs.flatMap utf8EncodeChar) (cs.map Stretch.whole) := by
  induction cs with
  | nil => exact .nil
  | cons c cs ih => exact ih.whole c

/-- The bytes of a text are read as the text. -/
theorem decode_encode (s : String) : decode (encode s) = s := by
  rw [encode, (lossy_flatMap s.toList).decode_eq, List.map_map]
  simp [Function.comp_def, Stretch.char]

/-- The beginning of a text is read as some of its characters and, if it ends within the next one, a broken
stretch. -/
theorem lossy_of_isPrefix {bytes : List UInt8} {cs : List Char} (h : bytes <+: cs.flatMap utf8EncodeChar) :
    ∃ ds, ds <+: cs ∧ (Lossy bytes (ds.map Stretch.whole) ∨
      ∃ tail, tail ≠ [] ∧ Lossy bytes (ds.map Stretch.whole ++ [.broken tail])) := by
  induction cs generalizing bytes with
  | nil =>
    obtain rfl := List.prefix_nil.mp h
    exact ⟨[], List.prefix_rfl, Or.inl .nil⟩
  | cons c cs ih =>
    rw [List.flatMap_cons] at h
    rcases Nat.lt_or_ge bytes.length (utf8EncodeChar c).length with hshort | hlong
    · have hpre : bytes <+: utf8EncodeChar c :=
        List.prefix_of_prefix_length_le h (List.prefix_append _ _) (Nat.le_of_lt hshort)
      refine ⟨[], List.nil_prefix, ?_⟩
      by_cases hne : bytes = []
      · exact Or.inl (hne ▸ .nil)
      · have hchar : ∀ d, bytes ≠ utf8EncodeChar d := by
          rintro d rfl
          obtain rfl := eq_of_isPrefix hpre
          exact Nat.lt_irrefl _ hshort
        have hbroken : Broken bytes [] := broken_of_begins hne ⟨c, hpre⟩ hchar (by simp)
        exact Or.inr ⟨bytes, hne, by simpa using Lossy.broken hbroken .nil⟩
    · obtain ⟨rest, rfl⟩ := List.prefix_of_prefix_length_le (List.prefix_append _ _) h hlong
      rw [List.prefix_append_right_inj] at h
      obtain ⟨ds, hds, hlossy⟩ := ih h
      refine ⟨c :: ds, List.cons_prefix_cons.mpr ⟨rfl, hds⟩, ?_⟩
      rcases hlossy with hwhole | ⟨tail, hne, hbroken⟩
      · exact Or.inl (hwhole.whole c)
      · exact Or.inr ⟨tail, hne, hbroken.whole c⟩

/-! ## Sizes -/

theorem utf8ByteSize_ofList (cs : List Char) :
    (String.ofList cs).utf8ByteSize = (cs.map Char.utf8Size).sum := by
  induction cs with
  | nil => rfl
  | cons c cs ih =>
    rw [← List.singleton_append, String.ofList_append, String.utf8ByteSize_append, ih]
    simp

/-- The beginning of a character that is none is shorter than the longest one. -/
theorem Broken.length_le_three {bytes rest : List UInt8} (h : Broken bytes rest) : bytes.length ≤ 3 := by
  rcases h.begins with hone | ⟨c, hc⟩
  · omega
  · have hfour : (utf8EncodeChar c).length ≤ 4 := by
      rw [String.length_utf8EncodeChar]
      exact c.utf8Size_le_four
    have hne : bytes.length ≠ (utf8EncodeChar c).length := by
      intro hlength
      have heq := hc.eq_of_length hlength
      exact h.not_char c (heq ▸ List.prefix_append _ _)
    have hle := hc.length_le
    omega

theorem Stretch.growth_broken_le {bytes : List UInt8} (h : bytes ≠ []) : (Stretch.broken bytes).growth ≤ 2 := by
  have hpos := List.length_pos_iff.mpr h
  rw [Stretch.growth, show replacement.utf8Size = 3 from rfl]
  omega

theorem Lossy.size {bytes : List UInt8} {ss : List Stretch} (h : Lossy bytes ss) :
    (String.ofList (ss.map Stretch.char)).utf8ByteSize = bytes.length + (ss.map Stretch.growth).sum := by
  rw [utf8ByteSize_ofList, List.map_map]
  induction h with
  | nil => rfl
  | whole c _ ih =>
    rw [List.map_cons, List.sum_cons, ih]
    simp [Stretch.char, Stretch.growth]
    omega
  | broken hbroken _ ih =>
    have hthree := hbroken.length_le_three
    rw [List.map_cons, List.sum_cons, ih]
    simp [Stretch.char, Stretch.growth, show replacement.utf8Size = 3 from rfl]
    omega

/-- Every stretch has a byte, and stands for a character of three bytes if it is broken. -/
theorem Lossy.growth_le {bytes : List UInt8} {ss : List Stretch} (h : Lossy bytes ss) :
    (ss.map Stretch.growth).sum ≤ 2 * bytes.length := by
  induction h with
  | nil => simp
  | whole c _ ih =>
    rw [List.map_cons, List.sum_cons, List.length_append, Stretch.growth]
    omega
  | broken hbroken _ ih =>
    have hpos := List.length_pos_iff.mpr hbroken.ne_nil
    have htwo := Stretch.growth_broken_le hbroken.ne_nil
    rw [List.map_cons, List.sum_cons, List.length_append]
    omega

/-- At the end of the beginning of a text one character is broken at most. -/
theorem Lossy.growth_le_of_isPrefix {bytes : List UInt8} {ss : List Stretch} {s : String} (h : Lossy bytes ss)
    (hpre : bytes <+: encode s) : (ss.map Stretch.growth).sum ≤ 2 := by
  have hwhole : ∀ ds : List Char, ((ds.map Stretch.whole).map Stretch.growth).sum = 0 := by
    intro ds
    simp [Function.comp_def, Stretch.growth]
  obtain ⟨ds, -, hlossy | ⟨tail, hne, hlossy⟩⟩ := lossy_of_isPrefix hpre
  · rw [h.unique hlossy, hwhole]
    omega
  · rw [h.unique hlossy, List.map_append, List.sum_append, hwhole]
    simpa using Stretch.growth_broken_le hne

end Flowline.Text.Utf8
