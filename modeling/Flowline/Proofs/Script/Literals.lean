import Flowline.Proofs.Json.Numerals
import Flowline.Proofs.Json.Values
import Flowline.Proofs.Script.Quoting

/-!
# Literals read back

`value` reads a literal of the script: a string, a word, a number, a list between brackets or quoted keys
and their values between braces.  The numbers that texts stand for are a parameter.  What
`literalChars` writes for a value is read as that value and no further (`takes_literalChars`), by
induction on the value; lists and objects are read item by item, whatever their items are.
-/

namespace Flowline.Script.Grammar

open Json.Reader (isSpace skipSpace skipSpace_cons)

variable {α : Type}

/-! ## The grammar -/

/-- The items of a list, at least one, with commas between them and `close` after the last. -/
def items (item : Reader α) (close : Char) : Nat → Reader (List α)
  | 0, _ => none
  | fuel + 1, cs => do
    let (x, cs) ← item cs
    match skipSpace cs with
    | [] => none
    | c :: cs =>
      if c = ',' then do
        let (xs, cs) ← items item close fuel (skipSpace cs)
        return (x :: xs, cs)
      else if c = close then some ([x], cs)
      else none

/-- A list, from after its opening bracket. -/
def list (item : Reader α) (close : Char) : Reader (List α) := fun cs =>
  match skipSpace cs with
  | [] => none
  | c :: cs => if c = close then some ([], cs) else items item close (cs.length + 1) (c :: cs)

/-- A quoted key, a colon and a value. -/
def member (value : Reader α) : Reader (String × α) := fun cs => do
  let (key, cs) ← text cs
  match skipSpace cs with
  | ':' :: cs =>
    let (v, cs) ← value (skipSpace cs)
    return ((key, v), cs)
  | _ => none

/-- A character of a word or a number. -/
def isWordChar (c : Char) : Bool :=
  Text.isLetterOrDigit c || c == '_' || c == '$' || isNumberChar c || 0x80 ≤ c.toNat

/-- What a word is. -/
def atom (numeral : List Char → Option Number) (cs : List Char) : Option Json :=
  if cs = "null".toList then some .null
  else if cs = "true".toList then some (.bool true)
  else if cs = "false".toList then some (.bool false)
  else (numeral cs).map .number

/-- A literal in which lists and objects nest less than `room` deep; `numeral` gives the number that a
word is, if it is one. -/
def value (numeral : List Char → Option Number) : Nat → Reader Json
  | 0, _ => none
  | room + 1, cs =>
    match cs with
    | [] => none
    | c :: cs =>
      if c = '"' then do
        let (s, rest) ← text (c :: cs)
        return (.string s, rest)
      else if c = '[' then do
        let (vs, rest) ← list (value numeral room) ']' cs
        return (.array vs, rest)
      else if c = '\x7b' then do
        let (ms, rest) ← list (member (value numeral room)) '\x7d' cs
        return (.object ms, rest)
      else do
        let v ← atom numeral ((c :: cs).takeWhile isWordChar)
        return (v, (c :: cs).dropWhile isWordChar)

/-- The literal at the front of a text, and the rest; nesting is only bounded by the length. -/
def front (numeral : List Char → Option Number) : Reader Json := fun cs => value numeral cs.length cs

/-- The value of a text that is one literal from end to end. -/
def whole (numeral : List Char → Option Number) (s : String) : Option Json :=
  match front numeral s.toList with
  | some (v, []) => some v
  | _ => none

/-- A text that does not go on with a word. -/
def Breaks (rest : List Char) : Prop := ∀ c ∈ rest.head?, isWordChar c = false

/-- A reader takes a text for `x`, whatever follows that does not go on with a word. -/
def Takes (item : Reader α) (cs : List Char) (x : α) : Prop :=
  ∀ rest, Breaks rest → item (cs ++ rest) = some (x, rest)

/-- A text with which an item may begin: neither a blank nor the closing bracket. -/
def Begins (close : Char) (cs : List Char) : Prop :=
  ∃ c ds, cs = c :: ds ∧ isSpace c = false ∧ c ≠ close

theorem Begins.skip {close : Char} {cs : List Char} (h : Begins close cs) (rest : List Char) :
    skipSpace (cs ++ rest) = cs ++ rest := by
  obtain ⟨c, ds, rfl, hspace, -⟩ := h
  exact skipSpace_cons hspace _

theorem Begins.skip_space {close : Char} {cs : List Char} (h : Begins close cs) (rest : List Char) :
    skipSpace (' ' :: (cs ++ rest)) = cs ++ rest :=
  h.skip rest

theorem breaks_of {c : Char} (h : isWordChar c = false) (rest : List Char) : Breaks (c :: rest) := by
  intro d hd
  obtain rfl := Option.some.inj hd
  exact h

/-! ## Lists -/

section Items

variable {item : Reader α} {close : Char} {f : α → List Char} {xs : List α} {tail rest : List Char}

/-- Texts with a comma and a space before each. -/
def more (f : α → List Char) (xs : List α) : List Char := xs.flatMap fun x => ',' :: ' ' :: f x

/-- An item is followed by a comma or by the end of the list. -/
theorem breaks_more (f : α → List Char) (htail : Breaks tail) (xs : List α) : Breaks (more f xs ++ tail) := by
  cases xs with
  | nil => exact htail
  | cons x xs => exact breaks_of rfl _

theorem items_last {cs : List Char} {x : α} (hx : item cs = some (x, tail))
    (hclose : skipSpace tail = close :: rest) (hcomma : close ≠ ',') (fuel : Nat) :
    items item close (fuel + 1) cs = some ([x], rest) := by
  simp [items, hx, hclose, hcomma]

theorem items_comma {cs : List Char} {x : α} {fuel : Nat} (hx : item cs = some (x, ',' :: tail))
    (hxs : items item close fuel (skipSpace tail) = some (xs, rest)) :
    items item close (fuel + 1) cs = some (x :: xs, rest) := by
  have hcomma : skipSpace (',' :: tail) = ',' :: tail := skipSpace_cons rfl tail
  simp [items, hx, hcomma, hxs]

/-- Items are read one after the other, up to what closes the list. -/
theorem items_more (hread : ∀ x ∈ xs, Takes item (f x) x) (hbegins : ∀ x ∈ xs, Begins close (f x))
    (htail : Breaks tail) (hclose : skipSpace tail = close :: rest) (hcomma : close ≠ ',') {x : α}
    (hx : Takes item (f x) x) {fuel : Nat} (hfuel : xs.length < fuel) :
    items item close fuel (f x ++ (more f xs ++ tail)) = some (x :: xs, rest) := by
  induction xs generalizing x fuel with
  | nil =>
    cases fuel with
    | zero => exact absurd hfuel (Nat.not_lt_zero _)
    | succ fuel => exact items_last (hx _ htail) hclose hcomma fuel
  | cons y ys ih =>
    cases fuel with
    | zero => exact absurd hfuel (Nat.not_lt_zero _)
    | succ fuel =>
      obtain ⟨hy, hys⟩ := List.forall_mem_cons.mp hread
      obtain ⟨hby, hbys⟩ := List.forall_mem_cons.mp hbegins
      have hnext := ih hys hbys hy (Nat.lt_of_succ_lt_succ hfuel)
      rw [← hby.skip_space] at hnext
      have hmore : more f (y :: ys) ++ tail = ',' :: ' ' :: (f y ++ (more f ys ++ tail)) := by
        simp [more]
      have hitem := hx _ (breaks_more f htail (y :: ys))
      rw [hmore] at hitem ⊢
      exact items_comma hitem hnext

theorem length_le_more (f : α → List Char) (xs : List α) : xs.length ≤ (more f xs).length := by
  induction xs with
  | nil => exact Nat.zero_le _
  | cons x xs ih =>
    rw [more, List.flatMap_cons, List.length_append, List.length_cons, List.length_cons, ← more]
    omega

/-- A list is read from after its opening bracket, with or without a space there. -/
theorem list_more {x : α} (hread : ∀ y ∈ x :: xs, Takes item (f y) y)
    (hbegins : ∀ y ∈ x :: xs, Begins close (f y)) (htail : Breaks tail)
    (hclose : skipSpace tail = close :: rest) (hcomma : close ≠ ',') {cs : List Char}
    (hcs : skipSpace cs = skipSpace (f x ++ (more f xs ++ tail))) :
    list item close cs = some (x :: xs, rest) := by
  obtain ⟨hx, hxs⟩ := List.forall_mem_cons.mp hread
  obtain ⟨hbx, hbxs⟩ := List.forall_mem_cons.mp hbegins
  rw [hbx.skip] at hcs
  obtain ⟨c, ds, hc, -, hne⟩ := hbx
  have hfuel : xs.length < (f x ++ (more f xs ++ tail)).length := by
    have := length_le_more f xs
    rw [hc]
    simp only [List.length_append, List.length_cons]
    omega
  have hitems := items_more hxs hbxs htail hclose hcomma hx hfuel
  rw [hc, List.cons_append] at hcs hitems
  rw [list, hcs]
  simp only [if_neg hne]
  exact hitems

theorem list_nil (item : Reader α) {close : Char} (hclose : isSpace close = false) (rest : List Char) :
    list item close (close :: rest) = some ([], rest) := by
  rw [list, skipSpace_cons hclose]
  simp

end Items

/-! ## What is written -/

theorem moreItems_eq (vs : List Json) : moreItems vs = more literalChars vs := by
  induction vs with
  | nil => rfl
  | cons v vs ih => simp [moreItems, more, ih]

/-- The text of a member. -/
def memberChars (m : String × Json) : List Char := quoteChars m.1 ++ ':' :: ' ' :: literalChars m.2

theorem moreMembers_eq (ms : List (String × Json)) : moreMembers ms = more memberChars ms := by
  induction ms with
  | nil => rfl
  | cons m ms ih => simp [moreMembers, more, memberChars, ih]

/-- All numbers of a value are told by their texts. -/
inductive Legible (numeral : List Char → Option Number) : Json → Prop
  | null : Legible numeral .null
  | bool (b : Bool) : Legible numeral (.bool b)
  | number {n : Number} (h : numeral n.render.toList = some n) : Legible numeral (.number n)
  | string (s : String) : Legible numeral (.string s)
  | array {vs : List Json} (h : ∀ v ∈ vs, Legible numeral v) : Legible numeral (.array vs)
  | object {ms : List (String × Json)} (h : ∀ m ∈ ms, Legible numeral m.2) : Legible numeral (.object ms)

theorem length_le_of_mem {f : α → List Char} {x y : α} {xs : List α} (hy : y ∈ x :: xs) :
    (f y).length ≤ (f x ++ more f xs).length := by
  rw [List.length_append]
  rcases List.mem_cons.mp hy with rfl | hy
  · exact Nat.le_add_right _ _
  · obtain ⟨before, after, rfl⟩ := List.append_of_mem hy
    simp only [more, List.flatMap_append, List.flatMap_cons, List.length_append, List.length_cons]
    omega

theorem length_lt_array {v : Json} {vs : List Json} (hv : v ∈ vs) :
    (literalChars v).length < (literalChars (.array vs)).length := by
  cases vs with
  | nil => cases hv
  | cons w vs =>
    have hmem := length_le_of_mem (f := literalChars) hv
    rw [List.length_append] at hmem
    rw [literalChars, moreItems_eq]
    simp only [List.length_cons, List.length_append]
    omega

theorem length_lt_object {m : String × Json} {ms : List (String × Json)} (hm : m ∈ ms) :
    (literalChars m.2).length < (literalChars (.object ms)).length := by
  cases ms with
  | nil => cases hm
  | cons e ms =>
    have hmem := length_le_of_mem (f := memberChars) hm
    rw [List.length_append] at hmem
    rw [literalChars, moreMembers_eq]
    simp only [memberChars, List.length_cons, List.length_append] at hmem ⊢
    omega

theorem isWordChar_of_number {c : Char} (h : isNumberChar c = true) : isWordChar c = true := by
  simp [isWordChar, h]

theorem begins_of_word {c : Char} (h : isWordChar c = true) (cs : List Char) : Begins ']' (c :: cs) := by
  refine ⟨c, cs, rfl, ?_, ?_⟩
  · rw [← Bool.not_eq_true]
    intro hspace
    simp only [isSpace, Bool.or_eq_true, decide_eq_true_eq] at hspace
    rcases hspace with ((rfl | rfl) | rfl) | rfl <;> exact absurd h (by decide)
  · rintro rfl
    exact absurd h (by decide)

theorem begins_literalChars (v : Json) : Begins ']' (literalChars v) := by
  cases v with
  | null => exact begins_of_word rfl _
  | bool b => cases b <;> exact begins_of_word rfl _
  | number n =>
    obtain ⟨hne, hall⟩ := n.numeric_render
    rw [literalChars]
    obtain ⟨c, cs, hcs⟩ := List.exists_cons_of_ne_nil hne
    rw [hcs] at hall ⊢
    exact begins_of_word (isWordChar_of_number (List.all_eq_true.mp hall c List.mem_cons_self)) cs
  | string s => exact ⟨'"', _, rfl, rfl, by decide⟩
  | array vs => cases vs <;> exact ⟨'[', _, rfl, rfl, by decide⟩
  | object ms => cases ms <;> exact ⟨'\x7b', _, rfl, rfl, by decide⟩

theorem length_pos (v : Json) : 0 < (literalChars v).length := by
  obtain ⟨c, cs, hcs, -⟩ := begins_literalChars v
  rw [hcs]
  exact Nat.zero_lt_succ _

/-! ## What is read -/

section Values

variable {numeral : List Char → Option Number}

theorem value_word {cs : List Char} {v : Json} (hne : cs ≠ []) (hcs : cs.all isWordChar = true)
    (hatom : atom numeral cs = some v) (room : Nat) : Takes (value numeral (room + 1)) cs v := by
  intro rest hrest
  rw [List.all_eq_true] at hcs
  have hspan : (cs ++ rest).takeWhile isWordChar = cs ∧ (cs ++ rest).dropWhile isWordChar = rest := by
    rw [List.takeWhile_append_of_pos hcs, List.dropWhile_append_of_pos hcs]
    cases rest with
    | nil => simp
    | cons c rest => simp [hrest c rfl]
  obtain ⟨c, ds, rfl⟩ := List.exists_cons_of_ne_nil hne
  have hc := hcs c List.mem_cons_self
  have hnot : c ≠ '"' ∧ c ≠ '[' ∧ c ≠ '\x7b' := by
    refine ⟨?_, ?_, ?_⟩ <;> rintro rfl <;> exact absurd hc (by decide)
  rw [List.cons_append] at hspan ⊢
  rw [value]
  simp only [if_neg hnot.1, if_neg hnot.2.1, if_neg hnot.2.2, hspan.1, hspan.2, hatom]
  rfl

/-- No number is written as a word that has a meaning of its own. -/
theorem atom_render (n : Number) : atom numeral n.render.toList = (numeral n.render.toList).map .number := by
  have hnot : ∀ w : List Char, (∃ c ∈ w, isNumberChar c = false) → n.render.toList ≠ w := by
    rintro w ⟨c, hc, hnum⟩ rfl
    exact absurd (List.all_eq_true.mp n.numeric_render.all c hc) (by simp [hnum])
  rw [atom, if_neg (hnot _ ⟨'n', by decide, rfl⟩), if_neg (hnot _ ⟨'t', by decide, rfl⟩),
    if_neg (hnot _ ⟨'f', by decide, rfl⟩)]

theorem takes_member {item : Reader Json} {m : String × Json} (h : Takes item (literalChars m.2) m.2) :
    Takes (member item) (memberChars m) m := by
  intro rest hrest
  have hskip := (begins_literalChars m.2).skip_space rest
  have hcolon : skipSpace (':' :: ' ' :: (literalChars m.2 ++ rest)) =
      ':' :: ' ' :: (literalChars m.2 ++ rest) := skipSpace_cons rfl _
  rw [memberChars, List.append_assoc, List.cons_append, List.cons_append, member, text_quoteChars]
  simp only [bind, Option.bind, hcolon, hskip, h rest hrest]
  rfl

theorem value_quote (room : Nat) (cs : List Char) :
    value numeral (room + 1) ('"' :: cs) =
      (do let (s, rest) ← text ('"' :: cs); return (.string s, rest)) := by
  rw [value.eq_def]
  rfl

theorem value_bracket (room : Nat) (cs : List Char) :
    value numeral (room + 1) ('[' :: cs) =
      (do let (vs, rest) ← list (value numeral room) ']' cs; return (.array vs, rest)) := by
  rw [value.eq_def]
  rfl

theorem value_brace (room : Nat) (cs : List Char) :
    value numeral (room + 1) ('\x7b' :: cs) =
      (do let (ms, rest) ← list (member (value numeral room)) '\x7d' cs
          return (.object ms, rest)) := by
  rw [value.eq_def]
  rfl

theorem takes_array {room : Nat} {vs : List Json}
    (h : ∀ v ∈ vs, Takes (value numeral room) (literalChars v) v) :
    Takes (value numeral (room + 1)) (literalChars (.array vs)) (.array vs) := by
  intro rest _
  have hlist : ∃ cs, literalChars (.array vs) ++ rest = '[' :: cs ∧
      list (value numeral room) ']' cs = some (vs, rest) := by
    cases vs with
    | nil => exact ⟨_, rfl, list_nil _ rfl rest⟩
    | cons v vs =>
      refine ⟨_, rfl, list_more h (fun w _ => begins_literalChars w) (breaks_of rfl rest)
        (skipSpace_cons rfl rest) (by decide) ?_⟩
      rw [moreItems_eq]
      simp
  obtain ⟨cs, hcs, hread⟩ := hlist
  rw [hcs, value_bracket, hread]
  rfl

theorem takes_object {room : Nat} {ms : List (String × Json)}
    (h : ∀ m ∈ ms, Takes (value numeral room) (literalChars m.2) m.2) :
    Takes (value numeral (room + 1)) (literalChars (.object ms)) (.object ms) := by
  intro rest _
  have hlist : ∃ cs, literalChars (.object ms) ++ rest = '\x7b' :: cs ∧
      list (member (value numeral room)) '\x7d' cs = some (ms, rest) := by
    cases ms with
    | nil => exact ⟨_, rfl, list_nil _ rfl rest⟩
    | cons m ms =>
      refine ⟨_, rfl, list_more (fun e he => takes_member (h e he))
        (fun e _ => ⟨'"', _, rfl, rfl, by decide⟩) (breaks_of (c := ' ') rfl ('\x7d' :: rest))
        rfl (by decide) ?_⟩
      rw [moreMembers_eq, memberChars]
      simp [skipSpace, isSpace]
  obtain ⟨cs, hcs, hread⟩ := hlist
  rw [hcs, value_brace, hread]
  rfl

/-- What is written for a value is read as the value and no further. -/
theorem takes_literalChars {v : Json} (hv : Legible numeral v) {room : Nat}
    (hroom : (literalChars v).length ≤ room + 1) :
    Takes (value numeral (room + 1)) (literalChars v) v := by
  induction hv generalizing room with
  | null => exact value_word (by decide) rfl rfl room
  | bool b => cases b <;> exact value_word (by decide) rfl rfl room
  | @number n h =>
    rw [literalChars]
    have hword : n.render.toList.all isWordChar = true := by
      rw [List.all_eq_true]
      exact fun c hc => isWordChar_of_number (List.all_eq_true.mp n.numeric_render.all c hc)
    exact value_word n.numeric_render.ne_nil hword (by rw [atom_render, h]; rfl) room
  | string s =>
    intro rest _
    have htext := text_quoteChars s rest
    rw [quoteChars, List.cons_append] at htext
    rw [literalChars, quoteChars, List.cons_append, value_quote, htext]
    rfl
  | @array vs h ih =>
    refine takes_array fun w hw => ?_
    have hlength := length_lt_array hw
    cases room with
    | zero => exact absurd (length_pos w) (by omega)
    | succ room => exact ih w hw (by omega)
  | @object ms h ih =>
    refine takes_object fun m hm => ?_
    have hlength := length_lt_object hm
    cases room with
    | zero => exact absurd (length_pos m.2) (by omega)
    | succ room => exact ih m hm (by omega)

theorem front_literal {v : Json} (hv : Legible numeral v) :
    Takes (front numeral) (literal v).toList v := by
  intro rest hrest
  have hlength : (literalChars v ++ rest).length ≠ 0 := by
    have := length_pos v
    rw [List.length_append]
    omega
  obtain ⟨room, hroom⟩ := Nat.exists_eq_succ_of_ne_zero hlength
  rw [literal, String.toList_ofList, front, hroom]
  refine takes_literalChars hv ?_ rest hrest
  rw [← Nat.succ_eq_add_one, ← hroom, List.length_append]
  exact Nat.le_add_right _ _

theorem whole_literal {v : Json} (hv : Legible numeral v) : whole numeral (literal v) = some v := by
  have hfront := front_literal hv [] fun _ hc => by cases hc
  rw [List.append_nil] at hfront
  rw [whole, hfront]

end Values

end Flowline.Script.Grammar

namespace Flowline.Script

open Grammar

/-- The literal of a value whose numbers are told by their texts is read as the value: alone, from end to
end, and with anything behind it that is not part of a word, up to there.  Different values have different
literals, and all quoting is sealed. -/
theorem literal_faithful (numeral : List Char → Option Number) :
    (∀ v, Legible numeral v → whole numeral (literal v) = some v ∧
      ∀ rest, Breaks rest → front numeral ((literal v).toList ++ rest) = some (v, rest)) ∧
    (∀ s, Sealed s) ∧
    ∀ v w, Legible numeral v → Legible numeral w → literal v = literal w → v = w := by
  refine ⟨fun v hv => ⟨whole_literal hv, front_literal hv⟩, sealed_quote, fun v w hv hw h => ?_⟩
  have hread : some v = some w := by rw [← whole_literal hv, h, whole_literal hw]
  exact Option.some.inj hread

/-- The number that is read from a text by the rules for documents. -/
def documentNumeral (cs : List Char) : Option Number :=
  match Json.Reader.number cs with
  | .ok (n, []) => some n
  | _ => none

/-- The whole numbers of a document are told by their texts. -/
theorem documentNumeral_render {n : Int} (hlow : -0x8000000000000000 ≤ n) (hhigh : n ≤ Text.maxWord) :
    documentNumeral (Number.int n).render.toList = some (.int n) := by
  have hread := Json.Reader.reads_number hlow hhigh [] Json.Reader.ends_nil
  rw [List.append_nil] at hread
  rw [documentNumeral, hread]

/-- What could have been read from a document is legible, if its numbers are whole. -/
theorem legible_of_kept {v : Json} (hv : v.Kept) (hwhole : v.isWhole = true) :
    Legible documentNumeral v := by
  induction hv with
  | null => exact .null
  | bool b => exact .bool b
  | int hlow hhigh => exact .number (documentNumeral_render hlow hhigh)
  | float x => cases hwhole
  | string s => exact .string s
  | array h ih => exact .array fun v hv => ih v hv (Json.areWhole_iff.mp hwhole v hv)
  | object hkeys h ih => exact .object fun m hm => ih m hm (Json.haveWhole_iff.mp hwhole m hm)

/-- Keys and texts with quotes, backslashes and line ends in them. -/
def awkward : Json :=
  .object [("", .object []), ("\"]\\", .array [.null, .string "\\\"\r\n, \t\\", .number (.int (-70))])]

theorem legible_awkward : Legible documentNumeral awkward := by
  refine legible_of_kept (.object (by decide) fun m hm => ?_) rfl
  simp only [List.mem_cons, List.not_mem_nil, or_false] at hm
  rcases hm with rfl | rfl
  · exact .object .nil (by simp)
  · refine .array fun v hv => ?_
    simp only [List.mem_cons, List.not_mem_nil, or_false] at hv
    rcases hv with rfl | rfl | rfl
    · exact .null
    · exact .string _
    · exact .int (by decide) (by decide)

theorem awkward_faithful :
    Legible documentNumeral awkward ∧
      literal awkward =
        "\x7b \"\": \x7b\x7d, \"\\\"]\\\\\": [null, \"\\\\\\\"\\r\\n, \\t\\\\\", -70] \x7d" ∧
      whole documentNumeral (literal awkward) = some awkward :=
  ⟨legible_awkward, by decide, ((literal_faithful documentNumeral).1 awkward legible_awkward).1⟩

end Flowline.Script
