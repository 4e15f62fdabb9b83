import Flowline.Json.Value
import Flowline.Proofs.Json.Literals

/-!
# Values read back

`Kept` says of a value that it could have been read: its whole numbers have 64 bits, and the members of
its objects are in the order of their keys.  Such a value is read back from its text if its numbers are
whole and it nests no deeper than there is room for: `reads_value`, by induction on the value.  Lists
and objects are read item by item, whatever their items are.
-/

namespace Flowline.Json

namespace Reader

variable {α : Type}

/-! ## Lists -/

/-- A text that neither a blank nor a closing bracket begins. -/
def Opens (text : List Char) : Prop := ∃ c cs, text = c :: cs ∧ isSpace c = false ∧ c ≠ ']'

/-- Texts with commas between them and a bracket after the last. -/
def commaList (close : Char) : List (List Char) → List Char
  | [] => [close]
  | t :: ts => t ++ (ts.flatMap (',' :: ·) ++ [close])

theorem length_le_commaList (close : Char) (ts : List (List Char)) :
    ts.length ≤ (commaList close ts).length := by
  have htail : ∀ ts : List (List Char), ts.length ≤ (ts.flatMap (',' :: ·)).length := by
    intro ts
    induction ts with
    | nil => exact Nat.le_refl _
    | cons t ts ih =>
      rw [List.flatMap_cons, List.length_append, List.length_cons, List.length_cons]
      omega
  cases ts with
  | nil => exact Nat.zero_le _
  | cons t ts =>
    have := htail ts
    simp only [commaList, List.length_append, List.length_cons, List.length_nil]
    omega

theorem skipSpace_cons {c : Char} (h : isSpace c = false) (cs : List Char) :
    skipSpace (c :: cs) = c :: cs := by
  simp [skipSpace, h]

/-- After a value comes the next item, or what ends the list. -/
theorem ends_tail (ts : List (List Char)) {rest : List Char} (h : Ends rest) :
    Ends (ts.flatMap (',' :: ·) ++ rest) := by
  cases ts with
  | nil => exact h
  | cons t ts => exact ends_comma _

section Items

variable {item : Reader α} {f : α → List Char} {xs : List α}

theorem nextItem_opens {text : List Char} (h : Opens text) (rest : List Char) :
    nextItem true (text ++ rest) = .ok (some (text ++ rest)) ∧
      nextItem false (',' :: (text ++ rest)) = .ok (some (text ++ rest)) := by
  obtain ⟨c, cs, rfl, hspace, hclose⟩ := h
  have hcomma : isSpace ',' = false := rfl
  constructor
  · simp [nextItem, skipSpace_cons hspace]
  · simp [nextItem, skipSpace_cons hspace, skipSpace_cons hcomma, hclose]

/-- The items after the first, each after a comma. -/
theorem items_flatMap (hread : ∀ x ∈ xs, Reads item (f x) x) (hopens : ∀ x ∈ xs, Opens (f x))
    {fuel : Nat} (hfuel : xs.length < fuel) (acc : List α) (rest : List Char) :
    items item fuel false acc ((xs.map f).flatMap (',' :: ·) ++ ']' :: rest) =
      .ok (acc.reverse ++ xs, rest) := by
  induction xs generalizing fuel acc with
  | nil =>
    cases fuel with
    | zero => exact absurd hfuel (Nat.not_lt_zero _)
    | succ fuel => rw [List.append_nil]; rfl
  | cons x xs ih =>
    cases fuel with
    | zero => exact absurd hfuel (Nat.not_lt_zero _)
    | succ fuel =>
      obtain ⟨hx, hxs⟩ := List.forall_mem_cons.mp hread
      obtain ⟨hox, hoxs⟩ := List.forall_mem_cons.mp hopens
      rw [List.map_cons, List.flatMap_cons, List.append_assoc, List.cons_append, items,
        (nextItem_opens hox _).2]
      simp only [bind, Except.bind, hx _ (ends_tail _ (ends_close _))]
      rw [ih hxs hoxs (Nat.lt_of_succ_lt_succ hfuel)]
      simp

/-- Items are read up to the closing bracket; the text is long enough to be the fuel. -/
theorem items_commaList (hread : ∀ x ∈ xs, Reads item (f x) x) (hopens : ∀ x ∈ xs, Opens (f x))
    (rest : List Char) :
    items item ((commaList ']' (xs.map f) ++ rest).length + 1) true []
      (commaList ']' (xs.map f) ++ rest) = .ok (xs, rest) := by
  have hfuel : xs.length ≤ (commaList ']' (xs.map f) ++ rest).length := by
    have hlength := length_le_commaList ']' (xs.map f)
    rw [List.length_map] at hlength
    rw [List.length_append]
    omega
  generalize (commaList ']' (xs.map f) ++ rest).length = fuel at hfuel ⊢
  cases xs with
  | nil => rfl
  | cons x xs =>
    obtain ⟨hx, hxs⟩ := List.forall_mem_cons.mp hread
    obtain ⟨hox, hoxs⟩ := List.forall_mem_cons.mp hopens
    rw [List.map_cons, commaList, List.append_assoc, List.append_assoc, List.singleton_append,
      items, (nextItem_opens hox _).1]
    simp only [bind, Except.bind, hx _ (ends_tail _ (ends_close _))]
    rw [items_flatMap hxs hoxs (Nat.lt_of_succ_le hfuel)]
    rfl

end Items

/-! ## Objects -/

section Members

variable {σ : Type} {member : σ → String → Reader σ} {s s' : σ} {ms : List (String × List Char)}

/-- The text of a member, from its key and the text of its value. -/
def memberText (m : String × List Char) : List Char := quoteChars m.1 ++ ':' :: m.2

/-- A reader of members takes some, one after the other, and gets from one state to another. -/
inductive Takes (member : σ → String → Reader σ) : σ → List (String × List Char) → σ → Prop
  | nil (s : σ) : Takes member s [] s
  | cons {s s' s'' : σ} {key : String} {text : List Char} {ms : List (String × List Char)}
      (h : Reads (member s key) (':' :: text) s') (hs : Takes member s' ms s'') :
      Takes member s ((key, text) :: ms) s''

theorem nextKey_memberText (m : String × List Char) (rest : List Char) :
    nextKey true (memberText m ++ rest) =
        .ok (some (m.1.toList.flatMap escapeChar ++ '"' :: (':' :: m.2 ++ rest))) ∧
      nextKey false (',' :: (memberText m ++ rest)) =
        .ok (some (m.1.toList.flatMap escapeChar ++ '"' :: (':' :: m.2 ++ rest))) := by
  have hcomma : isSpace ',' = false := rfl
  have hquote : isSpace '"' = false := rfl
  constructor
  · simp [memberText, quoteChars, nextKey, skipSpace_cons hquote]
  · simp [memberText, quoteChars, nextKey, skipSpace_cons hquote, skipSpace_cons hcomma]

/-- The members after the first, each after a comma. -/
theorem members_flatMap (h : Takes member s ms s') {fuel : Nat} (hfuel : ms.length < fuel)
    (rest : List Char) :
    members member fuel false s ((ms.map memberText).flatMap (',' :: ·) ++ '\x7d' :: rest) =
      .ok (s', rest) := by
  induction h generalizing fuel with
  | nil s =>
    cases fuel with
    | zero => exact absurd hfuel (Nat.not_lt_zero _)
    | succ fuel => rfl
  | cons h hs ih =>
    cases fuel with
    | zero => exact absurd hfuel (Nat.not_lt_zero _)
    | succ fuel =>
      rw [List.map_cons, List.flatMap_cons, List.append_assoc, List.cons_append, members,
        (nextKey_memberText _ _).2]
      simp only [bind, Except.bind, textTail_quote, h _ (ends_tail _ (ends_brace _))]
      exact ih (Nat.lt_of_succ_lt_succ hfuel)

/-- Members are read up to the closing brace; the text is long enough to be the fuel. -/
theorem members_commaList (h : Takes member s ms s') (rest : List Char) :
    members member ((commaList '\x7d' (ms.map memberText) ++ rest).length + 1) true s
      (commaList '\x7d' (ms.map memberText) ++ rest) = .ok (s', rest) := by
  have hfuel : ms.length ≤ (commaList '\x7d' (ms.map memberText) ++ rest).length := by
    have hlength := length_le_commaList '\x7d' (ms.map memberText)
    rw [List.length_map] at hlength
    rw [List.length_append]
    omega
  generalize (commaList '\x7d' (ms.map memberText) ++ rest).length = fuel at hfuel ⊢
  cases h with
  | nil s => rfl
  | cons h hs =>
    rw [List.map_cons, commaList, List.append_assoc, List.append_assoc, List.singleton_append,
      members, (nextKey_memberText _ _).1]
    simp only [bind, Except.bind, textTail_quote, h _ (ends_tail _ (ends_brace _))]
    exact members_flatMap hs (Nat.lt_of_succ_le hfuel) rest

end Members

end Reader

/-! ## Values -/

open Reader

/-- A value as it is kept: whole numbers have 64 bits, and the members of every object stand in the order
of their keys, each key once. -/
inductive Kept : Json → Prop
  | null : Kept .null
  | bool (b : Bool) : Kept (.bool b)
  | int {n : Int} (hlow : -0x8000000000000000 ≤ n) (hhigh : n ≤ Text.maxWord) : Kept (.number (.int n))
  | float (x : Float) : Kept (.number (.float x))
  | string (s : String) : Kept (.string s)
  | array {vs : List Json} (h : ∀ v ∈ vs, Kept v) : Kept (.array vs)
  | object {ms : Members} (hkeys : ms.Pairwise (·.1 < ·.1)) (h : ∀ m ∈ ms, Kept m.2) :
      Kept (.object ms)

mutual

/-- All numbers of a value are whole. -/
def isWhole : Json → Bool
  | .number (.float _) => false
  | .array vs => areWhole vs
  | .object ms => haveWhole ms
  | _ => true

def areWhole : List Json → Bool
  | [] => true
  | v :: vs => isWhole v && areWhole vs

def haveWhole : List (String × Json) → Bool
  | [] => true
  | (_, v) :: ms => isWhole v && haveWhole ms

end

mutual

/-- How deep lists and objects nest. -/
def depth : Json → Nat
  | .array vs => listDepth vs + 1
  | .object ms => memberDepth ms + 1
  | _ => 0

def listDepth : List Json → Nat
  | [] => 0
  | v :: vs => max (depth v) (listDepth vs)

def memberDepth : List (String × Json) → Nat
  | [] => 0
  | (_, v) :: ms => max (depth v) (memberDepth ms)

end

theorem areWhole_iff {vs : List Json} : areWhole vs = true ↔ ∀ v ∈ vs, v.isWhole = true := by
  induction vs with
  | nil => simp [areWhole]
  | cons v vs ih => simp [areWhole, ih]

theorem haveWhole_iff {ms : Members} : haveWhole ms = true ↔ ∀ m ∈ ms, m.2.isWhole = true := by
  induction ms with
  | nil => simp [haveWhole]
  | cons m ms ih => simp [haveWhole, ih]

theorem listDepth_le_iff {vs : List Json} {n : Nat} : listDepth vs ≤ n ↔ ∀ v ∈ vs, v.depth ≤ n := by
  induction vs with
  | nil => simp [listDepth]
  | cons v vs ih => simp [listDepth, ih]

theorem memberDepth_le_iff {ms : Members} {n : Nat} :
    memberDepth ms ≤ n ↔ ∀ m ∈ ms, m.2.depth ≤ n := by
  induction ms with
  | nil => simp [memberDepth]
  | cons m ms ih => simp [memberDepth, ih]

theorem chars_array (vs : List Json) :
    (Json.array vs).chars = '[' :: commaList ']' (vs.map chars) := by
  have hitems : ∀ vs : List Json, itemsChars vs = (vs.map chars).flatMap (',' :: ·) := by
    intro vs
    induction vs with
    | nil => rfl
    | cons v vs ih => simp [itemsChars, ih]
  cases vs with
  | nil => rfl
  | cons v vs => simp [chars, commaList, hitems]

theorem chars_object (ms : Members) :
    (Json.object ms).chars =
      '\x7b' :: commaList '\x7d' ((ms.map fun m => (m.1, m.2.chars)).map memberText) := by
  have hmembers : ∀ ms : Members,
      membersChars ms = ((ms.map fun m => (m.1, m.2.chars)).map memberText).flatMap (',' :: ·) := by
    intro ms
    induction ms with
    | nil => rfl
    | cons m ms ih => simp [membersChars, memberText, ih]
  cases ms with
  | nil => rfl
  | cons m ms => simp [chars, commaList, memberText, hmembers]

/-! ## Reading values -/

namespace Reader

theorem number_opens (n : Int) : ∃ c cs, (Number.int n).render.toList = c :: cs ∧
    (c = '-' ∨ c.isDigit = true) := by
  have hdigits : ∀ m, ∃ c cs, Nat.toDigits 10 m = c :: cs ∧ (c = '-' ∨ c.isDigit = true) := by
    intro m
    cases h : Nat.toDigits 10 m with
    | nil => exact absurd h Nat.toDigits_ne_nil
    | cons d ds =>
      exact ⟨d, ds, rfl, Or.inr (Nat.isDigit_of_mem_toDigits (by decide) (by decide)
        (h ▸ List.mem_cons_self))⟩
  rw [Number.render, Int.toString_eq_repr, Int.repr_eq_if]
  split
  · rw [Nat.toList_repr]
    exact hdigits _
  · rw [String.toList_append]
    exact ⟨'-', _, rfl, Or.inl rfl⟩

theorem isSpace_eq_false_of_number {c : Char} (h : c = '-' ∨ c.isDigit = true) : isSpace c = false := by
  rcases h with rfl | h
  · rfl
  · rw [← Bool.not_eq_true]
    intro hspace
    simp only [isSpace, Bool.or_eq_true, decide_eq_true_eq] at hspace
    rcases hspace with ((rfl | rfl) | rfl) | rfl <;> exact absurd h (by decide)

theorem value_number {c : Char} (h : c = '-' ∨ c.isDigit = true) (room : Nat) (cs : List Char) :
    value room (c :: cs) = (do let (n, rest) ← number (c :: cs); return (.number n, rest)) := by
  have hnot : c ≠ 'n' ∧ c ≠ 't' ∧ c ≠ 'f' := by
    refine ⟨?_, ?_, ?_⟩ <;> rintro rfl <;> revert h <;> decide
  rw [value.eq_def]
  dsimp only
  rw [skipSpace_cons (isSpace_eq_false_of_number h)]
  dsimp only
  rw [if_neg hnot.1, if_neg hnot.2.1, if_neg hnot.2.2, if_pos (by simpa using h)]

theorem value_quote (room : Nat) (cs : List Char) :
    value room ('"' :: cs) = (do let (s, rest) ← textTail cs; return (.string s, rest)) := by
  rw [value.eq_def]
  rfl

theorem value_bracket (room : Nat) (cs : List Char) :
    value (room + 1) ('[' :: cs) = (do
      let (vs, rest) ← items (value room) (cs.length + 1) true [] cs
      return (.array vs, rest)) := by
  rw [value.eq_def]
  rfl

/-- Adds a member, from after its key, to those before it. -/
def member (item : Reader Json) (ms : Members) (key : String) : Reader Members := fun cs => do
  let (v, cs) ← item (← colon cs)
  return (ms.insert key v, cs)

theorem value_brace (room : Nat) (cs : List Char) :
    value (room + 1) ('\x7b' :: cs) = (do
      let (ms, rest) ← members (member (value room)) (cs.length + 1) true [] cs
      return (.object ms, rest)) := by
  rw [value.eq_def]
  rfl

/-- Members in the order of their keys are read one after the other. -/
theorem takes_members {item : Reader Json} {ms : Members} (before : Members)
    (hkeys : (before ++ ms).Pairwise (·.1 < ·.1)) (h : ∀ m ∈ ms, Reads item m.2.chars m.2) :
    Takes (member item) before (ms.map fun m => (m.1, m.2.chars)) (before ++ ms) := by
  induction ms generalizing before with
  | nil =>
    rw [List.append_nil]
    exact .nil before
  | cons m ms ih =>
    obtain ⟨hm, hms⟩ := List.forall_mem_cons.mp h
    obtain ⟨key, v⟩ := m
    have hlast : before.insert key v = before ++ [(key, v)] :=
      Table.insert_eq_concat (fun e he => (List.pairwise_append.mp hkeys).2.2 e he _ List.mem_cons_self) v
    have hmember : Reads (member item before key) (':' :: v.chars) (before ++ [(key, v)]) := by
      intro rest hrest
      have hcolon : colon (':' :: (v.chars ++ rest)) = .ok (v.chars ++ rest) := rfl
      rw [← hlast, member, List.cons_append]
      simp only [hcolon, bind, Except.bind, hm rest hrest]
      rfl
    rw [List.append_cons] at hkeys ⊢
    exact .cons hmember (ih _ hkeys hms)

/-- The members of an object are read as a table of them. -/
theorem members_chars {item : Reader Json} {ms : Members} (hkeys : ms.Pairwise (·.1 < ·.1))
    (h : ∀ m ∈ ms, Reads item m.2.chars m.2) (rest : List Char) :
    let cs := commaList '\x7d' ((ms.map fun m => (m.1, m.2.chars)).map memberText) ++ rest
    members (member item) (cs.length + 1) true [] cs = .ok (ms, rest) :=
  members_commaList (takes_members [] hkeys h) rest

theorem opens_object (ms : Members) : Opens (Json.object ms).chars :=
  ⟨'\x7b', _, chars_object ms, rfl, by decide⟩

/-- A value with whole numbers may be an item of a list. -/
theorem opens_chars {v : Json} (h : v.isWhole = true) : Opens v.chars := by
  cases v with
  | null => exact ⟨'n', _, rfl, rfl, by decide⟩
  | bool b => cases b <;> exact ⟨_, _, rfl, rfl, by decide⟩
  | number n =>
    cases n with
    | int n =>
      obtain ⟨c, cs, hchars, hc⟩ := number_opens n
      refine ⟨c, cs, hchars, isSpace_eq_false_of_number hc, ?_⟩
      rintro rfl
      exact absurd hc (by decide)
    | float x => cases h
  | string s => exact ⟨'"', _, rfl, rfl, by decide⟩
  | array vs => exact ⟨'[', _, chars_array vs, rfl, by decide⟩
  | object ms => exact opens_object ms

/-- A value that could have been read is read back, if its numbers are whole and there is room. -/
theorem reads_value {v : Json} (hv : Kept v) (hwhole : v.isWhole = true) {room : Nat}
    (hdepth : v.depth ≤ room) : Reads (value room) v.chars v := by
  induction hv generalizing room with
  | null =>
    intro rest _
    rw [value.eq_def]
    rfl
  | bool b =>
    intro rest _
    rw [value.eq_def]
    cases b <;> rfl
  | @int n hlow hhigh =>
    intro rest hrest
    obtain ⟨c, cs, hchars, hc⟩ := number_opens n
    have hread := reads_number hlow hhigh rest hrest
    rw [hchars, List.cons_append] at hread
    rw [chars, hchars, List.cons_append, value_number hc, hread]
    rfl
  | float x => cases hwhole
  | string s =>
    intro rest _
    rw [chars, quoteChars, List.cons_append, List.append_assoc, List.singleton_append, value_quote,
      textTail_quote]
    rfl
  | @array vs h ih =>
    intro rest _
    cases room with
    | zero => exact absurd hdepth (Nat.not_succ_le_zero _)
    | succ room =>
      have hw := areWhole_iff.mp hwhole
      have hd := listDepth_le_iff.mp (Nat.le_of_succ_le_succ hdepth)
      rw [chars_array, List.cons_append, value_bracket,
        items_commaList (fun v hv => ih v hv (hw v hv) (hd v hv)) fun v hv => opens_chars (hw v hv)]
      rfl
  | @object ms hkeys h ih =>
    intro rest _
    cases room with
    | zero => exact absurd hdepth (Nat.not_succ_le_zero _)
    | succ room =>
      have hw := haveWhole_iff.mp hwhole
      have hd := memberDepth_le_iff.mp (Nat.le_of_succ_le_succ hdepth)
      rw [chars_object, List.cons_append, value_brace,
        members_chars hkeys fun m hm => ih m hm (hw m hm) (hd m hm)]
      rfl

end Reader

end Flowline.Json
