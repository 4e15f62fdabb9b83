/-!
# Ordered tables and sets

Lists that are kept in the order of their keys, each key once: `Table α` from texts to values and
`Ids` of texts alone.  Texts are in the order of their code points.
-/

namespace Flowline

/-- Values under texts, in the order of the texts. -/
abbrev Table (α : Type) := List (String × α)

namespace Table

variable {α : Type}

/-- Puts a value at the place of its key, instead of any value there. -/
def insert (key : String) (value : α) : Table α → Table α
  | [] => [(key, value)]
  | (k, v) :: rest =>
    if key < k then (key, value) :: (k, v) :: rest
    else if key = k then (key, value) :: rest
    else (k, v) :: insert key value rest

/-- The table of entries in any order; of two with one key the later counts. -/
def ofList (entries : List (String × α)) : Table α :=
  entries.foldl (fun t (k, v) => t.insert k v) []

def get? (t : Table α) (key : String) : Option α := t.lookup key

def has (t : Table α) (key : String) : Bool := (t.lookup key).isSome

def erase (t : Table α) (key : String) : Table α := t.filter fun (k, _) => k ≠ key

def keys (t : Table α) : List String := t.map Prod.fst

section Lookup

variable {t : Table α} {k key : String} {v : α}

@[simp] theorem get?_nil : get? ([] : Table α) key = none := rfl

theorem get?_cons (t : Table α) (k : String) (v : α) (key : String) :
    get? ((k, v) :: t) key = if key = k then some v else get? t key := by
  by_cases h : key = k
  · simp [get?, h]
  · have hb : (key == k) = false := by simpa using h
    simp [get?, List.lookup_cons, h, hb]

@[simp] theorem get?_insert_self (t : Table α) (k : String) (v : α) :
    (t.insert k v).get? k = some v := by
  induction t with
  | nil => simp [insert, get?_cons]
  | cons e rest ih =>
    obtain ⟨x, w⟩ := e
    simp only [insert]
    split
    · simp [get?_cons]
    · split
      · simp [get?_cons]
      · rename_i hne
        rw [get?_cons, if_neg hne, ih]

@[simp] theorem get?_insert_of_ne (t : Table α) (v : α) (h : key ≠ k) :
    (t.insert k v).get? key = t.get? key := by
  induction t with
  | nil => simp [insert, get?_cons, h]
  | cons e rest ih =>
    obtain ⟨x, w⟩ := e
    simp only [insert]
    split
    · rw [get?_cons, if_neg h]
    · split
      · rename_i heq
        rw [get?_cons, get?_cons, if_neg h, if_neg (heq ▸ h)]
      · rw [get?_cons, get?_cons, ih]

theorem get?_insert (t : Table α) (k : String) (v : α) (key : String) :
    (t.insert k v).get? key = if key = k then some v else t.get? key := by
  by_cases h : key = k
  · simp [h]
  · simp [h]

theorem get?_map (t : Table α) (f : String → α → α) (key : String) :
    get? (t.map fun e => (e.1, f e.1 e.2)) key = (t.get? key).map (f key) := by
  induction t with
  | nil => rfl
  | cons e rest ih =>
    obtain ⟨x, w⟩ := e
    rw [List.map_cons, get?_cons, ih, get?_cons]
    by_cases hx : key = x
    · rw [if_pos hx, if_pos hx, hx, Option.map_some]
    · rw [if_neg hx, if_neg hx]

/-- A table of only some of the keys. -/
theorem get?_filter (t : Table α) (p : String → Bool) (key : String) :
    get? (t.filter fun e => p e.1) key = if p key then t.get? key else none := by
  induction t with
  | nil => simp
  | cons e rest ih =>
    obtain ⟨x, w⟩ := e
    rw [get?_cons, List.filter_cons]
    cases hp : p x with
    | true =>
      rw [if_pos rfl, get?_cons, ih]
      by_cases hx : key = x
      · rw [if_pos hx, if_pos hx, hx, hp, if_pos rfl]
      · rw [if_neg hx, if_neg hx]
    | false =>
      rw [if_neg Bool.false_ne_true, ih]
      by_cases hx : key = x
      · rw [hx, hp, if_neg Bool.false_ne_true, if_neg Bool.false_ne_true]
      · rw [if_neg hx]

theorem get?_erase (t : Table α) (k key : String) :
    (t.erase k).get? key = if key = k then none else t.get? key := by
  rw [erase, get?_filter t (fun x => decide (x ≠ k))]
  by_cases h : key = k
  · simp [h]
  · simp [h]

@[simp] theorem get?_erase_self (t : Table α) (k : String) : (t.erase k).get? k = none := by
  rw [get?_erase, if_pos rfl]

@[simp] theorem get?_erase_of_ne (t : Table α) (h : key ≠ k) : (t.erase k).get? key = t.get? key := by
  rw [get?_erase, if_neg h]

/-- What a table has after an insertion is the new entry, or it is under another key. -/
theorem get?_insert_eq_some {t : Table α} {w : α} :
    (t.insert k v).get? key = some w ↔ key = k ∧ v = w ∨ key ≠ k ∧ t.get? key = some w := by
  rw [get?_insert]
  by_cases h : key = k
  · simp [h]
  · simp [h]

theorem get?_erase_eq_some {t : Table α} :
    (t.erase k).get? key = some v ↔ key ≠ k ∧ t.get? key = some v := by
  rw [get?_erase]
  by_cases h : key = k
  · simp [h]
  · simp [h]

theorem mem_of_get? (h : t.get? key = some v) : (key, v) ∈ t := by
  obtain ⟨pre, post, rfl, -⟩ := List.lookup_eq_some_iff.mp h
  simp

theorem has_eq_isSome (t : Table α) (key : String) : t.has key = (t.get? key).isSome := rfl

end Lookup

section Order

variable {t : Table α} {key : String} {v : α} {e : String × α}

theorem eq_or_mem_of_mem_insert (h : e ∈ t.insert key v) : e = (key, v) ∨ e ∈ t := by
  induction t with
  | nil => exact Or.inl (List.mem_singleton.mp h)
  | cons d rest ih =>
    obtain ⟨x, w⟩ := d
    simp only [insert] at h
    split at h
    · exact List.mem_cons.mp h
    · split at h
      · exact (List.mem_cons.mp h).imp_right (List.mem_cons_of_mem _)
      · rcases List.mem_cons.mp h with rfl | h
        · exact Or.inr List.mem_cons_self
        · exact (ih h).imp_right (List.mem_cons_of_mem _)

/-- The keys stay in order, each once. -/
theorem sorted_insert (h : t.Pairwise (·.1 < ·.1)) (key : String) (v : α) :
    (t.insert key v).Pairwise (·.1 < ·.1) := by
  induction t with
  | nil => exact List.pairwise_singleton _ _
  | cons d rest ih =>
    obtain ⟨x, w⟩ := d
    obtain ⟨hx, hrest⟩ := List.pairwise_cons.mp h
    simp only [insert]
    split
    · rename_i hlt
      refine List.pairwise_cons.mpr ⟨fun e he => ?_, h⟩
      rcases List.mem_cons.mp he with rfl | he
      · exact hlt
      · exact String.lt_trans hlt (hx e he)
    · split
      · rename_i heq
        exact List.pairwise_cons.mpr ⟨heq ▸ hx, hrest⟩
      · rename_i hnot hne
        refine List.pairwise_cons.mpr ⟨fun e he => ?_, ih hrest⟩
        rcases eq_or_mem_of_mem_insert he with rfl | he
        · exact Std.lt_of_le_of_ne (Std.not_lt.mp hnot) (Ne.symm hne)
        · exact hx e he

/-- A key after all others goes to the end. -/
theorem insert_eq_concat (h : ∀ e ∈ t, e.1 < key) (v : α) : t.insert key v = t ++ [(key, v)] := by
  induction t with
  | nil => rfl
  | cons e rest ih =>
    obtain ⟨he, hrest⟩ := List.forall_mem_cons.mp h
    rw [insert, if_neg (String.lt_asymm he), if_neg (Ne.symm (String.ne_of_lt he)), ih hrest]
    rfl

end Order

end Table

/-- A set of texts, as the ascending list of its members. -/
abbrev Ids := List String

namespace Ids

def insert (id : String) : Ids → Ids
  | [] => [id]
  | x :: xs =>
    if id < x then id :: x :: xs
    else if id = x then x :: xs
    else x :: insert id xs

def ofList (ids : List String) : Ids := ids.foldr insert []

variable {x id : String} {ids : Ids}

@[simp] theorem mem_insert : x ∈ insert id ids ↔ x = id ∨ x ∈ ids := by
  induction ids with
  | nil => simp [insert]
  | cons y ys ih =>
    simp only [insert]
    split
    · simp
    · split
      · rename_i h
        simp [h]
      · simp [ih, or_left_comm]

@[simp] theorem mem_ofList {xs : List String} : x ∈ ofList xs ↔ x ∈ xs := by
  induction xs with
  | nil => simp [ofList]
  | cons y ys ih => simpa [ofList] using or_congr_right ih

theorem sorted_insert (h : ids.Pairwise (· < ·)) : (insert id ids).Pairwise (· < ·) := by
  induction ids with
  | nil => simp [insert]
  | cons y ys ih =>
    obtain ⟨hy, hys⟩ := List.pairwise_cons.mp h
    simp only [insert]
    split
    · rename_i hlt
      refine List.pairwise_cons.mpr ⟨fun z hz => ?_, h⟩
      rcases List.mem_cons.mp hz with rfl | hz
      · exact hlt
      · exact String.lt_trans hlt (hy z hz)
    · split
      · exact h
      · rename_i hnot hne
        refine List.pairwise_cons.mpr ⟨fun z hz => ?_, ih hys⟩
        rcases mem_insert.mp hz with rfl | hz
        · exact Std.lt_of_le_of_ne (Std.not_lt.mp hnot) (Ne.symm hne)
        · exact hy z hz

theorem sorted_ofList (xs : List String) : (ofList xs).Pairwise (· < ·) := by
  induction xs with
  | nil => exact List.Pairwise.nil
  | cons y ys ih => exact sorted_insert ih

theorem nodup_of_sorted (h : ids.Pairwise (· < ·)) : ids.Nodup := by
  refine List.Pairwise.imp (fun {a b} hlt heq => ?_) h
  exact String.lt_irrefl b (heq ▸ hlt)

end Ids

end Flowline
