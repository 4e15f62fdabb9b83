import Flowline.Proofs.Script.Integers
import Flowline.Proofs.Script.Names
import Flowline.Proofs.Script.Quoting

/-!
# Accessors along a path

What is written for a dotted path is read back as a chain of accessors, one for each name along the path, each
with the key of the property that it gets (`keys?_chain`).  For a name that spells a 64-bit number the key is
the number in decimal digits, so that it is the name itself exactly if the name has no sign and no zeros in
front; two paths have the same chain exactly if their keys are the same (`selects_access`).
-/

namespace Flowline

namespace Text

/-- Between separators the pieces are what they were cut from. -/
theorem intercalate_pieces (separator : Char) (cs : List Char) :
    [separator].intercalate (pieces (· == separator) cs) = cs := by
  induction cs with
  | nil => rfl
  | cons c cs ih =>
    obtain ⟨w, ws, hpieces⟩ := List.exists_cons_of_ne_nil (pieces_ne_nil (· == separator) cs)
    rw [hpieces] at ih
    by_cases hc : c = separator
    · rw [pieces, if_pos (beq_iff_eq.mpr hc), hpieces, List.intercalate_cons_cons, ih, hc]
      rfl
    · rw [pieces, if_neg (by simpa using hc), hpieces]
      cases ws with
      | nil =>
        simp only [List.intercalate_singleton] at ih ⊢
        rw [ih]
      | cons v ws =>
        simp only [List.intercalate_cons_cons] at ih ⊢
        rw [← ih]
        simp

theorem notMem_of_mem_pieces {separator : Char} {cs w : List Char}
    (hw : w ∈ pieces (· == separator) cs) : separator ∉ w := by
  induction cs generalizing w with
  | nil =>
    obtain rfl := List.mem_singleton.mp hw
    exact List.not_mem_nil
  | cons c cs ih =>
    obtain ⟨v, ws, hpieces⟩ := List.exists_cons_of_ne_nil (pieces_ne_nil (· == separator) cs)
    by_cases hc : c = separator
    · rw [pieces, if_pos (beq_iff_eq.mpr hc)] at hw
      rcases List.mem_cons.mp hw with rfl | hw
      · exact List.not_mem_nil
      · exact ih hw
    · rw [pieces, if_neg (by simpa using hc), hpieces] at hw
      rcases List.mem_cons.mp hw with rfl | hw
      · rw [List.mem_cons, not_or]
        exact ⟨Ne.symm hc, ih (hpieces ▸ List.mem_cons_self)⟩
      · exact ih (hpieces ▸ List.mem_cons_of_mem v hw)

/-- The parts of a text are between the separators and have none of their own. -/
theorem intercalate_split (separator : Char) (s : String) :
    (String.singleton separator).intercalate (split separator s) = s := by
  rw [← String.toList_inj, String.toList_intercalate, split, String.toList_singleton, List.map_map]
  have hid : String.toList ∘ String.ofList = id := by
    funext cs
    exact String.toList_ofList
  rw [hid, List.map_id, intercalate_pieces]

theorem notMem_of_mem_split {separator : Char} {s part : String} (h : part ∈ split separator s) :
    separator ∉ part.toList := by
  obtain ⟨w, hw, rfl⟩ := List.mem_map.mp h
  rw [String.toList_ofList]
  exact notMem_of_mem_pieces hw

/-- A number with a plus sign or zeros in front. -/
def IsPadded (s : String) : Prop :=
  ∃ plus zeros n, n ≤ maxWord ∧ s = spelled plus zeros n ∧ (plus = true ∨ 0 < zeros)

theorem toString_eq_spelled_iff {plus : Bool} {zeros n : Nat} :
    toString n = spelled plus zeros n ↔ plus = false ∧ zeros = 0 := by
  constructor
  · intro h
    have hlength := congrArg (fun s => s.toList.length) h
    simp only [toString_eq_spelled, toList_spelled, List.length_append, List.length_replicate] at hlength
    cases plus with
    | false =>
      simp at hlength
      exact ⟨rfl, hlength⟩
    | true =>
      simp at hlength
      omega
  · rintro ⟨rfl, rfl⟩
    exact toString_eq_spelled n

end Text

namespace Script

/-! ## The grammar of accessors -/

namespace Grammar

inductive Accessor
  | index (n : Nat)
  | property (name : String)

/-- The key of the property that an accessor gets; an index is its decimal text. -/
def Accessor.key : Accessor → String
  | index n => toString n
  | property name => name

/-- What an accessor has between its brackets, a numeral or a quoted name. -/
def subscript : Reader Accessor
  | '"' :: cs => (text ('"' :: cs)).map fun r => (.property r.1, r.2)
  | cs => (unpadded? (cs.takeWhile Char.isDigit)).map fun n => (.index n, cs.dropWhile Char.isDigit)

/-- An optional access. -/
def accessor : Reader Accessor
  | '?' :: '.' :: '[' :: cs =>
    match subscript cs with
    | some (a, ']' :: rest) => some (a, rest)
    | _ => none
  | _ => none

/-- A chain of accessors from end to end, at most `fuel` of them. -/
def accessors : Nat → List Char → Option (List Accessor)
  | _, [] => some []
  | 0, _ => none
  | fuel + 1, cs => do
    let (a, rest) ← accessor cs
    return a :: (← accessors fuel rest)

/-- The keys of the properties that a chain of accessors gets, one after the other. -/
def keys? (chain : String) : Option (List String) :=
  (accessors chain.toList.length chain.toList).map (·.map Accessor.key)

end Grammar

open Grammar

/-! ## Reading a chain -/

/-- The accessor that is written for a name. -/
def accessorOf (name : String) : Accessor :=
  match Text.natural? name with
  | some n => .index n
  | none => .property name

/-- The key of the property that is got for a name. -/
def keyOf (name : String) : String := (accessorOf name).key

theorem subscript_toDigits (n : Nat) (rest : List Char) :
    subscript (Nat.toDigits 10 n ++ ']' :: rest) = some (.index n, ']' :: rest) := by
  have hdigits : ∀ c ∈ Nat.toDigits 10 n, c.isDigit = true :=
    fun c hc => Nat.isDigit_of_mem_toDigits (by decide) (by decide) hc
  have htake : (Nat.toDigits 10 n ++ ']' :: rest).takeWhile Char.isDigit = Nat.toDigits 10 n := by
    rw [List.takeWhile_append_of_pos hdigits]
    exact List.append_nil _
  have hdrop : (Nat.toDigits 10 n ++ ']' :: rest).dropWhile Char.isDigit = ']' :: rest := by
    rw [List.dropWhile_append_of_pos hdigits]
    rfl
  unfold subscript
  split
  · -- no digit is a quote
    rename_i cs hquote
    obtain ⟨c, ds, hcons⟩ := List.exists_cons_of_ne_nil (Nat.toDigits_ne_nil (b := 10) (n := n))
    rw [hcons, List.cons_append] at hquote
    have hc := hdigits c (hcons ▸ List.mem_cons_self)
    rw [(List.cons.inj hquote).1] at hc
    exact absurd hc (by decide)
  · rw [htake, hdrop, unpadded?_toDigits]
    rfl

theorem subscript_quoteChars (name : String) (rest : List Char) :
    subscript (quoteChars name ++ rest) = some (.property name, rest) := by
  have h := text_quoteChars name rest
  rw [quoteChars, List.cons_append] at h ⊢
  rw [subscript, h]
  rfl

theorem accessor_accessor (name : String) (rest : List Char) :
    Grammar.accessor ((accessor name).toList ++ rest) = some (accessorOf name, rest) := by
  rw [accessor_eq]
  unfold accessorOf
  cases Text.natural? name with
  | some n =>
    have hchars : ("?.[" ++ toString n ++ "]").toList ++ rest =
        '?' :: '.' :: '[' :: (Nat.toDigits 10 n ++ ']' :: rest) := by
      simp [Nat.toString_eq_repr]
    rw [hchars, Grammar.accessor, subscript_toDigits]
    rfl
  | none =>
    have hchars : ("?.[" ++ quote name ++ "]").toList ++ rest =
        '?' :: '.' :: '[' :: (quoteChars name ++ ']' :: rest) := by
      simp [toList_quote]
    rw [hchars, Grammar.accessor, subscript_quoteChars]
    rfl

theorem accessors_flatMap {fuel : Nat} (names : List String)
    (hfuel : (names.flatMap fun name => (accessor name).toList).length ≤ fuel) :
    accessors fuel (names.flatMap fun name => (accessor name).toList) = some (names.map accessorOf) := by
  induction names generalizing fuel with
  | nil => cases fuel <;> rfl
  | cons name names ih =>
    have hread := accessor_accessor name (names.flatMap fun name => (accessor name).toList)
    rw [List.flatMap_cons] at hfuel ⊢
    obtain ⟨c, cs, hcons⟩ : ∃ c cs, (accessor name).toList = c :: cs := by
      rw [accessor_eq]
      split <;> simp
    rw [hcons, List.cons_append] at hfuel hread ⊢
    rw [List.length_cons, List.length_append] at hfuel
    obtain ⟨fuel, rfl⟩ : ∃ k, fuel = k + 1 := ⟨fuel - 1, by omega⟩
    have htail : accessors fuel (names.flatMap fun name => (accessor name).toList) =
        some (names.map accessorOf) := ih (by omega)
    simp [accessors, hread, htail]

/-- What is written after the base for some names is a chain with their keys. -/
theorem keys?_chain (names : List String) :
    keys? (String.join (names.map accessor)) = some (names.map keyOf) := by
  have hchars : (String.join (names.map accessor)).toList =
      names.flatMap fun name => (accessor name).toList := by
    rw [String.toList_join, List.flatMap_map]
  rw [keys?, hchars, accessors_flatMap names (Nat.le_refl _), Option.map_some, List.map_map]
  rfl

/-! ## Keys -/

theorem keyOf_of_natural? {name : String} {n : Nat} (h : Text.natural? name = some n) :
    keyOf name = toString n := by
  rw [keyOf, accessorOf, h]
  rfl

theorem keyOf_of_eq_none {name : String} (h : Text.natural? name = none) : keyOf name = name := by
  rw [keyOf, accessorOf, h]
  rfl

theorem keyOf_spelled {plus : Bool} {zeros n : Nat} (hn : n ≤ Text.maxWord) :
    keyOf (Text.spelled plus zeros n) = toString n :=
  keyOf_of_natural? (Text.natural?_eq_some_iff.mpr ⟨hn, plus, zeros, rfl⟩)

/-- A padded number names another property than the accessor gets; every other name names that one. -/
theorem keyOf_eq_iff {name : String} : keyOf name = name ↔ ¬ Text.IsPadded name := by
  constructor
  · rintro hkey ⟨plus, zeros, n, hn, rfl, hpadded⟩
    rw [keyOf_spelled hn, Text.toString_eq_spelled_iff] at hkey
    obtain ⟨rfl, rfl⟩ := hkey
    simp at hpadded
  · intro hpadded
    cases hnatural : Text.natural? name with
    | none => exact keyOf_of_eq_none hnatural
    | some n =>
      obtain ⟨hn, plus, zeros, rfl⟩ := Text.natural?_eq_some_iff.mp hnatural
      rw [keyOf_of_natural? hnatural, Text.toString_eq_spelled_iff]
      by_contra hbare
      refine hpadded ⟨plus, zeros, n, hn, rfl, ?_⟩
      cases plus
      · exact Or.inr (Nat.pos_of_ne_zero fun h => hbare ⟨rfl, h⟩)
      · exact Or.inl rfl

/-- What is written for a name is what is written for its key. -/
theorem accessor_keyOf (name : String) : accessor (keyOf name) = accessor name := by
  cases hnatural : Text.natural? name with
  | none => rw [keyOf_of_eq_none hnatural]
  | some n =>
    obtain ⟨hn, -⟩ := Text.natural?_eq_some_iff.mp hnatural
    have hkey : Text.natural? (toString n) = some n :=
      Text.natural?_eq_some_iff.mpr ⟨hn, false, 0, Text.toString_eq_spelled n⟩
    rw [keyOf_of_natural? hnatural, accessor_eq, accessor_eq, hkey, hnatural]

/-- The keys are the names unless a number is padded. -/
theorem map_keyOf_eq_iff (names : List String) :
    names.map keyOf = names ↔ ∀ name ∈ names, ¬ Text.IsPadded name := by
  have hpointwise := List.map_inj_left (l := names) (f := keyOf) (g := id)
  rw [List.map_id] at hpointwise
  rw [hpointwise]
  exact forall₂_congr fun name _ => keyOf_eq_iff

/-! ## Paths -/

/-- What the accessors along a path select. -/
structure Selects (base path : String) : Prop where
  /-- The names along the path are its parts between dots, trimmed, without those that are empty. -/
  names : ∃ parts, ".".intercalate parts = path ∧ (∀ part ∈ parts, '.' ∉ part.toList) ∧
    pathNames path = (parts.map Text.trim).filter (· ≠ "")
  /-- After the base there is one accessor for each, in their order. -/
  chain : ∃ accessors, access base path = base ++ accessors ∧
    Grammar.keys? accessors = some ((pathNames path).map keyOf)
  /-- They get the properties of these names exactly if none of the names is a number with a plus sign or
  zeros in front, -/
  exact_iff : (pathNames path).map keyOf = pathNames path ↔
    ∀ name ∈ pathNames path, ¬ Text.IsPadded name
  /-- for which the one is got that the number names without them. -/
  padded (plus : Bool) (zeros n : Nat) (hn : n ≤ Text.maxWord) :
    keyOf (Text.spelled plus zeros n) = toString n
  /-- Two paths have the same chain exactly if their keys are the same. -/
  eq_iff (other : String) :
    access base path = access base other ↔ (pathNames path).map keyOf = (pathNames other).map keyOf

theorem selects_access (base path : String) : Selects base path where
  names := ⟨Text.split '.' path, Text.intercalate_split '.' path, fun _ h => Text.notMem_of_mem_split h, rfl⟩
  chain := ⟨_, rfl, keys?_chain _⟩
  exact_iff := map_keyOf_eq_iff _
  padded _ _ _ hn := keyOf_spelled hn
  eq_iff other := by
    constructor
    · intro h
      rw [access_eq, access_eq] at h
      have hchain := (String.append_right_inj base).mp h
      have hkeys : some ((pathNames path).map keyOf) = some ((pathNames other).map keyOf) := by
        rw [← keys?_chain, hchain, keys?_chain]
      exact Option.some.inj hkeys
    · intro h
      have hwritten (path : String) :
          (pathNames path).map accessor = ((pathNames path).map keyOf).map accessor := by
        rw [List.map_map]
        exact List.map_congr_left fun name _ => (accessor_keyOf name).symm
      rw [access_eq, access_eq, hwritten path, hwritten other, h]

/-- Two paths with different names have the same accessors, and one of them names another property. -/
theorem padded_index : pathNames "items.007" = ["items", "007"] ∧ pathNames "items.7" = ["items", "7"] ∧
    access "step_x" "items.007" = "step_x?.[\"items\"]?.[7]" ∧
    access "step_x" "items.7" = "step_x?.[\"items\"]?.[7]" ∧
    Grammar.keys? "?.[\"items\"]?.[7]" = some ["items", "7"] := by
  decide +kernel

end Script

end Flowline
