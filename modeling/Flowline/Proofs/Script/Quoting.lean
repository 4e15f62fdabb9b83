import Flowline.Proofs.Text
import Flowline.Script.Expr
import Mathlib.Algebra.Ring.Parity

/-!
# String literals

A text is escaped by five replacements, one after the other and the backslash first.  Together they write
each character on its own, as one that needs no escape or as a backslash and a second character
(`escapeChar_cases`).  Hence a reader of string literals that knows these escapes and nothing else gets to
the closing quote and no further, and has the text by then: `text_quoteChars`.
-/

namespace Flowline.Script

/-! ## Escaping -/

/-- What is replaced in a text, and by what, in this order. -/
def escapes : List (Char × String) :=
  [('\\', "\\\\"), ('"', "\\\""), ('\n', "\\n"), ('\r', "\\r"), ('\t', "\\t")]

/-- A text after all replacements. -/
def escape (s : String) : String :=
  escapes.foldl (fun s e => Text.replace s (String.singleton e.1) e.2) s

/-- The backslash is replaced while all there are belong to the text; what is replaced after it is not
among what has been written. -/
theorem toList_escape (s : String) : (escape s).toList = s.toList.flatMap escapeChar := by
  simp only [escape, escapes, List.foldl_cons, List.foldl_nil, Text.toList_replace_singleton,
    List.flatMap_assoc]
  congr 1
  funext c
  unfold escapeChar
  split_ifs <;> simp_all

/-! ## Reading -/

namespace Grammar

/-- Takes what it reads from the front of a text; gives it and the rest. -/
abbrev Reader (α : Type) := List Char → Option (α × List Char)

/-- The character that is written as a backslash and `c`. -/
def unescape? (c : Char) : Option Char :=
  if c = '\\' ∨ c = '"' then some c
  else if c = 'n' then some '\n'
  else if c = 'r' then some '\r'
  else if c = 't' then some '\t'
  else none

/-- The characters of a string literal, from after its opening quote. -/
def textTail : Reader (List Char)
  | [] => none
  | '"' :: cs => some ([], cs)
  | '\\' :: c :: cs => do
    let d ← unescape? c
    let (ds, rest) ← textTail cs
    return (d :: ds, rest)
  | c :: cs =>
    if c = '\n' ∨ c = '\r' then none
    else do
      let (ds, rest) ← textTail cs
      return (c :: ds, rest)

/-- A string literal. -/
def text : Reader String
  | '"' :: cs => do
    let (ds, rest) ← textTail cs
    return (String.ofList ds, rest)
  | _ => none

end Grammar

open Grammar

/-- A character stands for itself or is written as a backslash and a second one, neither of them the end
of a line. -/
theorem escapeChar_cases (c : Char) :
    (escapeChar c = [c] ∧ c ≠ '\\' ∧ c ≠ '"' ∧ c ≠ '\n' ∧ c ≠ '\r') ∨
      ∃ d, escapeChar c = ['\\', d] ∧ unescape? d = some c ∧ d ≠ '\n' ∧ d ≠ '\r' := by
  unfold escapeChar
  split_ifs with hslash hquote hfeed hreturn htab
  · exact Or.inr ⟨'\\', rfl, by rw [hslash]; rfl, by decide, by decide⟩
  · exact Or.inr ⟨'"', rfl, by rw [hquote]; rfl, by decide, by decide⟩
  · exact Or.inr ⟨'n', rfl, by rw [hfeed]; rfl, by decide, by decide⟩
  · exact Or.inr ⟨'r', rfl, by rw [hreturn]; rfl, by decide, by decide⟩
  · exact Or.inr ⟨'t', rfl, by rw [htab]; rfl, by decide, by decide⟩
  · exact Or.inl ⟨rfl, hslash, hquote, hfeed, hreturn⟩

namespace Grammar

theorem textTail_escapeChar (c : Char) (cs : List Char) :
    textTail (escapeChar c ++ cs) = (textTail cs).map fun r => (c :: r.1, r.2) := by
  obtain ⟨h, hslash, hquote, hfeed, hreturn⟩ | ⟨d, h, hd, -, -⟩ := escapeChar_cases c
  · rw [h, List.singleton_append, textTail.eq_4 _ _ hquote (fun _ _ hc _ => hslash hc),
      if_neg (not_or.mpr ⟨hfeed, hreturn⟩)]
    cases textTail cs <;> rfl
  · rw [h, List.cons_append, List.singleton_append, textTail, hd]
    cases textTail cs <;> rfl

/-- The characters of a text are read from what is written for them, up to the quote after them. -/
theorem textTail_flatMap (cs rest : List Char) :
    textTail (cs.flatMap escapeChar ++ '"' :: rest) = some (cs, rest) := by
  induction cs with
  | nil => rfl
  | cons c cs ih => rw [List.flatMap_cons, List.append_assoc, textTail_escapeChar, ih, Option.map_some]

/-- A literal is read to its closing quote, whatever comes after it. -/
theorem text_quoteChars (s : String) (rest : List Char) :
    text (quoteChars s ++ rest) = some (s, rest) := by
  rw [quoteChars, List.cons_append, List.append_assoc, List.singleton_append, text, textTail_flatMap]
  exact congrArg (fun t => some (t, rest)) (String.ofList_toList)

end Grammar

/-! ## Quotes and line ends -/

/-- The number of backslashes at the end of a text. -/
def slashes (cs : List Char) : Nat := (cs.reverse.takeWhile (· = '\\')).length

theorem slashes_concat (cs : List Char) (c : Char) :
    slashes (cs ++ [c]) = if c = '\\' then slashes cs + 1 else 0 := by
  rw [slashes, List.reverse_append, List.reverse_singleton, List.singleton_append, List.takeWhile_cons]
  by_cases hc : c = '\\' <;> simp [hc, slashes]

/-- Backslashes are written in pairs at the end of a text. -/
theorem even_slashes {p : List Char} (h : Even (slashes p)) (c : Char) :
    Even (slashes (p ++ escapeChar c)) := by
  obtain ⟨hc, hslash, -⟩ | ⟨d, hc, -⟩ := escapeChar_cases c
  · rw [hc, slashes_concat, if_neg hslash]
    exact Even.zero
  · rw [hc, List.append_cons, slashes_concat, slashes_concat, if_pos rfl]
    split
    · exact h.add even_two
    · exact Even.zero

theorem even_slashes_flatMap {p : List Char} (h : Even (slashes p)) (cs : List Char) :
    Even (slashes (p ++ cs.flatMap escapeChar)) := by
  induction cs generalizing p with
  | nil => simpa using h
  | cons c cs ih =>
    rw [List.flatMap_cons, ← List.append_assoc]
    exact ih (even_slashes h c)

/-- Every quote in what is written for a text is escaped: the backslashes just before it are odd in
number. -/
theorem odd_slashes {p cs before after : List Char} (hp : Even (slashes p))
    (h : cs.flatMap escapeChar = before ++ '"' :: after) : Odd (slashes (p ++ before)) := by
  induction cs generalizing p before with
  | nil => exact absurd h (by simp)
  | cons c cs ih =>
    have hnext := even_slashes hp c
    rw [List.flatMap_cons] at h
    obtain ⟨hc, -, hquote, -⟩ | ⟨d, hc, -⟩ := escapeChar_cases c
    · rw [hc, List.singleton_append] at h
      cases before with
      | nil => exact absurd (List.cons.inj h).1 hquote
      | cons b before =>
        obtain ⟨rfl, htail⟩ := List.cons.inj h
        rw [List.append_cons]
        exact ih (hc ▸ hnext) htail
    · rw [hc, List.cons_append, List.singleton_append] at h
      match before, h with
      | [], h => exact absurd (List.cons.inj h).1 (by decide)
      | [b], h =>
        -- the quote is the second character of its own escape
        obtain rfl := (List.cons.inj h).1
        rw [slashes_concat, if_pos rfl]
        exact hp.add_one
      | b :: e :: before, h =>
        rw [List.cons_append, List.cons_append, List.cons.injEq, List.cons.injEq] at h
        obtain ⟨rfl, rfl, h⟩ := h
        have hwhole : p ++ '\\' :: d :: before = p ++ escapeChar c ++ before := by simp [hc]
        rw [hwhole]
        exact ih hnext h

/-- A literal is on one line. -/
theorem notMem_quoteChars (s : String) : '\n' ∉ quoteChars s ∧ '\r' ∉ quoteChars s := by
  have hescape : ∀ c, '\n' ∉ escapeChar c ∧ '\r' ∉ escapeChar c := by
    intro c
    obtain ⟨hc, -, -, hfeed, hreturn⟩ | ⟨d, hc, -, hfeed, hreturn⟩ := escapeChar_cases c
    · simp [hc, hfeed.symm, hreturn.symm]
    · simp [hc, hfeed.symm, hreturn.symm]
  simp [quoteChars, hescape]

/-- The literal of a text cannot be left before its end, and loses nothing. -/
structure Sealed (s : String) : Prop where
  /-- The text, after all replacements, stands between two quotes. -/
  quote_eq : quote s = "\"" ++ escape s ++ "\""
  feed : '\n' ∉ (quote s).toList
  carriage : '\r' ∉ (quote s).toList
  /-- Every quote within is escaped: the backslashes just before it are odd in number. -/
  escaped (before after : List Char) (h : (escape s).toList = before ++ '"' :: after) :
    Odd (slashes before)
  /-- The closing quote is not escaped. -/
  closed : Even (slashes (escape s).toList)
  /-- The literal is read to the closing quote, whatever comes after it, as the text. -/
  reads (rest : List Char) : text ((quote s).toList ++ rest) = some (s, rest)

theorem toList_quote (s : String) : (quote s).toList = quoteChars s := String.toList_ofList

theorem sealed_quote (s : String) : Sealed s where
  quote_eq := by
    rw [← String.toList_inj]
    simp [toList_quote, quoteChars, toList_escape]
  feed := toList_quote s ▸ (notMem_quoteChars s).1
  carriage := toList_quote s ▸ (notMem_quoteChars s).2
  escaped _ _ h := odd_slashes (p := []) Even.zero (toList_escape s ▸ h)
  closed := toList_escape s ▸ even_slashes_flatMap (p := []) Even.zero s.toList
  reads rest := toList_quote s ▸ text_quoteChars s rest

/-- Where a literal ends shows in the literal. -/
theorem quote_append_inj {s t after rest : String} (h : quote s ++ after = quote t ++ rest) :
    s = t ∧ after = rest := by
  have hread : some (s, after.toList) = some (t, rest.toList) := by
    rw [← (sealed_quote s).reads, ← (sealed_quote t).reads, ← String.toList_append, h,
      String.toList_append]
  obtain ⟨hst, hrest⟩ := Prod.mk.inj (Option.some.inj hread)
  exact ⟨hst, String.toList_inj.mp hrest⟩

/-- Texts whose ends show are told from a list of them, given how many there are. -/
theorem intercalate_map_inj {α : Type} {f : α → String} (separator : String)
    (hf : ∀ {x y : α} {after rest : String}, f x ++ after = f y ++ rest → x = y ∧ after = rest) :
    ∀ {xs ys : List α}, xs.length = ys.length →
      separator.intercalate (xs.map f) = separator.intercalate (ys.map f) → xs = ys
  | [], [], _, _ => rfl
  | [x], [y], _, h => by
    obtain ⟨rfl, -⟩ := hf (congrArg (· ++ "") h)
    rfl
  | x :: x' :: xs, y :: y' :: ys, hlength, h => by
    simp only [List.map_cons, String.intercalate_cons_cons, String.append_assoc] at h
    obtain ⟨rfl, htail⟩ := hf h
    have hrest : x' :: xs = y' :: ys :=
      intercalate_map_inj separator hf (Nat.succ.inj hlength) ((String.append_right_inj separator).mp htail)
    rw [hrest]

end Flowline.Script
