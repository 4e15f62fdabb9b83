import Flowline.Json.Record
import Flowline.Proofs.Folds
import Flowline.Proofs.Json.Values

/-!
# What is read is kept

The converse of reading back: a value that has been read is `Kept` and nests no deeper than there was
room for, by induction on the room.  `Gives` says what holds of everything that a reader gives; lists,
objects and records give what their items, members and fields do.
-/

namespace Flowline.Json

namespace Reader

variable {α β σ : Type} {room : Nat}

/-- What a reader gives has some property, whatever it reads. -/
def Gives (read : Reader α) (P : α → Prop) : Prop :=
  ∀ cs x rest, read cs = .ok (x, rest) → P x

/-! ## Numbers -/

theorem absorb_le {n : Nat} (h : n ≤ Text.maxWord) (ds : List Char) : (absorb n ds).1 ≤ Text.maxWord := by
  induction ds generalizing n with
  | nil => exact h
  | cons d ds ih =>
    rw [absorb]
    split
    · rename_i hm
      exact ih hm
    · exact h

theorem kept_whole {n : Nat} (h : n ≤ Text.maxWord) (negative : Bool) :
    Kept (.number (whole negative n)) := by
  rw [whole]
  split
  · exact .int (by omega) (by exact_mod_cast h)
  split
  · exact .float _
  · rename_i hsmall
    simp only [Bool.or_eq_true, decide_eq_true_eq, not_or] at hsmall
    exact .int (by omega) (by omega)

theorem kept_double {negative : Bool} {significand : Nat} {e : Int} {n : Number}
    (h : double negative significand e = .ok n) : Kept (.number n) := by
  obtain ⟨x, -, hx⟩ := bind_eq_ok_iff.mp h
  cases hx
  exact .float _

theorem kept_exponent {negative : Bool} {significand : Nat} {e : Int} :
    Gives (exponent negative significand e) fun n => Kept (.number n) := by
  intro cs n rest h
  unfold exponent at h
  dsimp only at h
  -- The first split is on the sign.
  split at h
  all_goals
    split at h
    · cases h
    · obtain ⟨x, hx, h⟩ := bind_eq_ok_iff.mp h
      cases h
      exact kept_double hx

theorem kept_fraction {negative : Bool} {significand dropped : Nat} :
    Gives (fraction negative significand dropped) fun n => Kept (.number n) := by
  intro cs n rest h
  unfold fraction at h
  dsimp only at h
  split at h
  · cases h
  split at h
  · exact kept_exponent _ _ _ h
  · exact kept_exponent _ _ _ h
  · obtain ⟨x, hx, h⟩ := bind_eq_ok_iff.mp h
    cases h
    exact kept_double hx

theorem kept_unsigned (negative : Bool) : Gives (unsigned negative) fun n => Kept (.number n) := by
  intro cs n rest h
  obtain ⟨⟨ds, tail⟩, -, h⟩ := bind_eq_ok_iff.mp h
  dsimp only at h
  split at h
  · exact kept_fraction _ _ _ h
  · exact kept_exponent _ _ _ h
  · exact kept_exponent _ _ _ h
  split at h
  · cases h
    exact kept_whole (absorb_le (Nat.zero_le _) ds) negative
  · obtain ⟨x, hx, h⟩ := bind_eq_ok_iff.mp h
    cases h
    exact kept_double hx

/-- A number that has been read is a whole one of 64 bits or a double. -/
theorem kept_number : Gives number fun n => Kept (.number n) := by
  intro cs n rest h
  unfold number at h
  split at h
  · exact kept_unsigned true _ _ _ h
  · exact kept_unsigned false _ _ _ h

/-! ## Lists and objects -/

theorem items_gives {item : Reader α} {P : α → Prop} (h : Gives item P) (fuel : Nat) (first : Bool)
    {acc : List α} (hacc : ∀ x ∈ acc, P x) :
    Gives (items item fuel first acc) fun xs => ∀ x ∈ xs, P x := by
  induction fuel generalizing first acc with
  | zero => intro cs xs rest hxs; cases hxs
  | succ fuel ih =>
    intro cs xs rest hxs
    obtain ⟨start, -, hxs⟩ := bind_eq_ok_iff.mp hxs
    cases start with
    | none =>
      cases hxs
      exact fun x hx => hacc x (List.mem_reverse.mp hx)
    | some cs =>
      obtain ⟨⟨x, cs⟩, hx, hxs⟩ := bind_eq_ok_iff.mp hxs
      exact ih false (List.forall_mem_cons.mpr ⟨h _ _ _ hx, hacc⟩) _ _ _ hxs

theorem members_gives {member : σ → String → Reader σ} {P : σ → Prop}
    (h : ∀ s key, P s → Gives (member s key) P) (fuel : Nat) (first : Bool) {s : σ} (hs : P s) :
    Gives (members member fuel first s) P := by
  induction fuel generalizing first s with
  | zero => intro cs t rest ht; cases ht
  | succ fuel ih =>
    intro cs t rest ht
    obtain ⟨start, -, ht⟩ := bind_eq_ok_iff.mp ht
    cases start with
    | none =>
      cases ht
      exact hs
    | some cs =>
      obtain ⟨⟨key, cs⟩, -, ht⟩ := bind_eq_ok_iff.mp ht
      obtain ⟨⟨s', cs⟩, hs', ht⟩ := bind_eq_ok_iff.mp ht
      exact ih false (h s key hs _ _ _ hs') _ _ _ ht

/-- Members as they are kept, whose values have some property. -/
structure KeptMembers (P : Json → Prop) (ms : Members) : Prop where
  sorted : ms.Pairwise (·.1 < ·.1)
  values : ∀ m ∈ ms, P m.2

theorem KeptMembers.nil (P : Json → Prop) : KeptMembers P [] := ⟨.nil, List.forall_mem_nil _⟩

theorem KeptMembers.insert {P : Json → Prop} {ms : Members} (h : KeptMembers P ms) (key : String)
    {v : Json} (hv : P v) : KeptMembers P (ms.insert key v) where
  sorted := Table.sorted_insert h.sorted key v
  values m hm := by
    rcases Table.eq_or_mem_of_mem_insert hm with rfl | hm
    · exact hv
    · exact h.values m hm

theorem member_gives {item : Reader Json} {P : Json → Prop} (h : Gives item P) (ms : Members)
    (key : String) (hms : KeptMembers P ms) : Gives (member item ms key) (KeptMembers P) := by
  intro cs ms' rest hms'
  obtain ⟨cs, -, hms'⟩ := bind_eq_ok_iff.mp hms'
  obtain ⟨⟨v, cs⟩, hv, hms'⟩ := bind_eq_ok_iff.mp hms'
  cases hms'
  exact hms.insert key (h _ _ _ hv)

/-! ## Values -/

/-- A value as it is kept that nests at most `room` deep. -/
structure Fits (room : Nat) (v : Json) : Prop where
  kept : Kept v
  depth : v.depth ≤ room

theorem fits_array {vs : List Json} (h : ∀ v ∈ vs, Fits room v) : Fits (room + 1) (.array vs) :=
  ⟨.array fun v hv => (h v hv).kept, Nat.succ_le_succ (listDepth_le_iff.mpr fun v hv => (h v hv).depth)⟩

theorem fits_object {ms : Members} (h : KeptMembers (Fits room) ms) : Fits (room + 1) (.object ms) :=
  ⟨.object h.sorted fun m hm => (h.values m hm).kept,
    Nat.succ_le_succ (memberDepth_le_iff.mpr fun m hm => (h.values m hm).depth)⟩

theorem fits_scalar {v : Json} (h : Kept v) (hdepth : v.depth = 0) : Fits room v :=
  ⟨h, by rw [hdepth]; exact Nat.zero_le _⟩

/-- What is read with some room fits it, if what is read with one level less fits that. -/
theorem value_gives_of_below (h : ∀ below, room = below + 1 → Gives (value below) (Fits below)) :
    Gives (value room) (Fits room) := by
  intro cs v rest hv
  rw [value.eq_def] at hv
  dsimp only at hv
  split at hv
  · cases hv
  rename_i c tail _
  split_ifs at hv
  · obtain ⟨tail, -, hv⟩ := bind_eq_ok_iff.mp hv
    cases hv
    exact fits_scalar .null rfl
  · obtain ⟨tail, -, hv⟩ := bind_eq_ok_iff.mp hv
    cases hv
    exact fits_scalar (.bool true) rfl
  · obtain ⟨tail, -, hv⟩ := bind_eq_ok_iff.mp hv
    cases hv
    exact fits_scalar (.bool false) rfl
  · obtain ⟨⟨n, tail⟩, hn, hv⟩ := bind_eq_ok_iff.mp hv
    cases hv
    exact fits_scalar (kept_number _ _ _ hn) rfl
  · obtain ⟨⟨s, tail⟩, -, hv⟩ := bind_eq_ok_iff.mp hv
    cases hv
    exact fits_scalar (.string s) rfl
  · cases room with
    | zero => cases hv
    | succ below =>
      obtain ⟨⟨vs, tail⟩, hvs, hv⟩ := bind_eq_ok_iff.mp hv
      cases hv
      exact fits_array (items_gives (h below rfl) _ _ (List.forall_mem_nil _) _ _ _ hvs)
  · cases room with
    | zero => cases hv
    | succ below =>
      obtain ⟨⟨ms, tail⟩, hms, hv⟩ := bind_eq_ok_iff.mp hv
      cases hv
      exact fits_object
        (members_gives (member_gives (h below rfl)) _ _ (KeptMembers.nil _) _ _ _ hms)

/-- A value that has been read is kept, and nests no deeper than there was room for. -/
theorem value_gives (room : Nat) : Gives (value room) (Fits room) := by
  induction room with
  | zero => exact value_gives_of_below fun below h => absurd h.symm (Nat.succ_ne_zero below)
  | succ room ih =>
    refine value_gives_of_below fun below hbelow => ?_
    obtain rfl := Nat.succ.inj hbelow
    exact ih

/-! ## Values of a known shape -/

theorem natural_gives (wanted : String) : Gives (natural wanted) (· ≤ Text.maxWord) := by
  intro cs n rest h
  unfold natural at h
  split at h
  · split_ifs at h
    obtain ⟨⟨x, tail⟩, hx, h⟩ := bind_eq_ok_iff.mp h
    have hkept := kept_number _ _ _ hx
    cases x with
    | float x => cases h
    | int i =>
      dsimp only at h
      split_ifs at h
      cases h
      cases hkept with
      | int hlow hhigh => exact Int.toNat_le.mpr hhigh
  · cases h

/-- The items of a list nest one level less deep than there is room for. -/
theorem list_gives {item : Nat → Reader α} {P : α → Prop}
    (h : ∀ below, room = below + 1 → Gives (item below) P) :
    Gives (list room item) fun xs => ∀ x ∈ xs, P x := by
  intro cs xs rest hxs
  unfold list at hxs
  split at hxs
  · cases room with
    | zero => cases hxs
    | succ below => exact items_gives (h below rfl) _ _ (List.forall_mem_nil _) _ _ _ hxs
  · cases hxs

/-- The members of a table nest one level less deep than there is room for. -/
theorem table_gives :
    Gives (table room (fun (t : Members) key v => t.insert key v) [] value) fun ms =>
      Fits room (.object ms) := by
  intro cs ms rest hms
  unfold table at hms
  split at hms
  · cases room with
    | zero => cases hms
    | succ below =>
      exact fits_object
        (members_gives (member_gives (value_gives below)) _ _ (KeptMembers.nil _) _ _ _ hms)
  · cases hms

theorem of_gives {name : String} {get : σ → Option β} {set : β → σ → σ} {read : Nat → Reader β}
    {P : σ → Prop} {Q : β → Prop} (hread : Gives (read room) Q)
    (hset : ∀ b s, Q b → P s → P (set b s)) (s : σ) (hs : P s) :
    Gives ((Field.of name get set read).read room s) P := by
  intro cs t rest ht
  obtain ⟨⟨b, tail⟩, hb, ht⟩ := bind_eq_ok_iff.mp ht
  cases ht
  exact hset b s (hread _ _ _ hb) hs

/-- A field that has nothing to do with what a draft has of others. -/
theorem of_gives_of_keeps {name : String} {get : σ → Option β} {set : β → σ → σ} {read : Nat → Reader β}
    {P : σ → Prop} (hset : ∀ b s, P s → P (set b s)) (s : σ) (hs : P s) :
    Gives ((Field.of name get set read).read room s) P :=
  of_gives (Q := fun _ => True) (fun _ _ _ _ => trivial) (fun b s _ => hset b s) s hs

theorem fieldsInOrder_gives {fields : List (Field σ)} {P : σ → Prop}
    (h : ∀ f ∈ fields, ∀ s, P s → Gives (f.read room s) P) (first : Bool) {s : σ} (hs : P s) :
    Gives (fieldsInOrder room fields first s) P := by
  induction fields generalizing first s with
  | nil =>
    intro cs t rest ht
    cases ht
    exact hs
  | cons f fields ih =>
    obtain ⟨hf, hfields⟩ := List.forall_mem_cons.mp h
    intro cs t rest ht
    obtain ⟨start, -, ht⟩ := bind_eq_ok_iff.mp ht
    cases start with
    | none =>
      cases ht
      exact hs
    | some cs =>
      obtain ⟨⟨s', tail⟩, hs', ht⟩ := bind_eq_ok_iff.mp ht
      exact ih hfields false (hf s hs _ _ _ hs') _ _ _ ht

theorem fieldNamed_gives {fields : List (Field σ)} {P : σ → Prop}
    (h : ∀ f ∈ fields, ∀ s, P s → Gives (f.read room s) P) (s : σ) (key : String) (hs : P s) :
    Gives (fieldNamed room fields s key) P := by
  intro cs t rest ht
  unfold fieldNamed at ht
  split at ht
  · rename_i f hfind
    split_ifs at ht
    obtain ⟨tail, -, ht⟩ := bind_eq_ok_iff.mp ht
    exact h f (List.mem_of_find?_eq_some hfind) s hs _ _ _ ht
  · obtain ⟨tail, -, ht⟩ := bind_eq_ok_iff.mp ht
    obtain ⟨⟨⟨⟩, tail⟩, -, ht⟩ := bind_eq_ok_iff.mp ht
    cases ht
    exact hs

/-- A record that has been read, as an object or as an array, is made from a draft with what every field
keeps; its fields nest one level less deep than there is room for. -/
theorem record_gives {r : Record σ α} {P : Nat → σ → Prop} {Q : α → Prop}
    (hempty : ∀ below, P below r.empty)
    (hread : ∀ below, room = below + 1 → ∀ f ∈ r.fields, ∀ s, P below s →
      Gives (f.read below s) (P below))
    (hclose : ∀ below, room = below + 1 → ∀ fault s a, P below s → r.close fault s = .ok a → Q a) :
    Gives (record r room) Q := by
  intro cs a rest ha
  unfold record at ha
  split at ha
  · cases room with
    | zero => cases ha
    | succ below =>
      obtain ⟨⟨s, tail⟩, hs, ha⟩ := bind_eq_ok_iff.mp ha
      obtain ⟨b, hb, ha⟩ := bind_eq_ok_iff.mp ha
      obtain ⟨tail, -, ha⟩ := bind_eq_ok_iff.mp ha
      cases ha
      exact hclose below rfl _ s _ (fieldsInOrder_gives (hread below rfl) true (hempty below) _ _ _ hs) hb
  · cases room with
    | zero => cases ha
    | succ below =>
      obtain ⟨⟨s, tail⟩, hs, ha⟩ := bind_eq_ok_iff.mp ha
      obtain ⟨b, hb, ha⟩ := bind_eq_ok_iff.mp ha
      cases ha
      exact hclose below rfl _ s _
        (members_gives (fieldNamed_gives (hread below rfl)) _ _ (hempty below) _ _ _ hs) hb
  · cases ha

theorem document_gives {read : Nat → Reader α} {P : α → Prop} (h : Gives (read maxDepth) P) {s : String}
    {a : α} (ha : document read s = .ok a) : P a := by
  obtain ⟨⟨b, rest⟩, hb, ha⟩ := bind_eq_ok_iff.mp ha
  dsimp only at ha
  split_ifs at ha
  cases ha
  exact h _ _ _ hb

end Reader

end Flowline.Json
