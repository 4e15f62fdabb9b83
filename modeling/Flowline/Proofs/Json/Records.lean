import Flowline.Json.Record
import Flowline.Proofs.Json.Values

/-!
# Values of a known shape read back

Each reader of a typed value takes the text that is written for such a value.  A record is read back
if its members, in the order in which they are written, set one field after the other and the fields
that are left out are not wanted.
-/

namespace Flowline.Json.Reader

variable {α β σ : Type} {room : Nat}

theorem reads_string (s : String) : Reads string (quoteChars s) s := by
  intro rest _
  rw [quoteChars, List.cons_append, List.append_assoc, List.singleton_append]
  exact textTail_quote s rest

theorem reads_string? (s : String) : Reads string? (quoteChars s) (some s) := by
  intro rest _
  rw [quoteChars, List.cons_append, List.append_assoc, List.singleton_append]
  have hread : string ('"' :: (s.toList.flatMap escapeChar ++ '"' :: rest)) = .ok (s, rest) :=
    textTail_quote s rest
  change (string _ >>= _) = _
  rw [hread]
  rfl

theorem reads_natural (wanted : String) {n : Nat} (h : n ≤ Text.maxWord) :
    Reads (natural wanted) (Json.nat n).chars n := by
  intro rest hrest
  obtain ⟨c, cs, hchars, hc⟩ := number_opens n
  have hread := reads_number (n := n) (by omega) (by exact_mod_cast h) rest hrest
  rw [hchars, List.cons_append] at hread
  rw [Json.nat, chars, hchars, List.cons_append, natural, skipSpace_cons (isSpace_eq_false_of_number hc)]
  dsimp only
  rw [if_pos (by simpa using hc), hread]
  simp [bind, Except.bind, pure, Except.pure]

theorem reads_list {item : Nat → Reader α} {f : α → List Char} {xs : List α}
    (hread : ∀ x ∈ xs, Reads (item room) (f x) x) (hopens : ∀ x ∈ xs, Opens (f x)) :
    Reads (list (room + 1) item) ('[' :: commaList ']' (xs.map f)) xs :=
  fun rest _ => items_commaList hread hopens rest

theorem reads_table {item : Nat → Reader Json} {ms : Members} (hkeys : ms.Pairwise (·.1 < ·.1))
    (h : ∀ m ∈ ms, Reads (item room) m.2.chars m.2) :
    Reads (table (room + 1) (fun (t : Members) key v => t.insert key v) [] item)
      (Json.object ms).chars ms := by
  rw [chars_object]
  exact fun rest _ => members_chars hkeys h rest

theorem reads_variant {known : List (String × α)} {name : String} {a : α}
    (h : known.lookup name = some a) : Reads (variant room known) (quoteChars name) a := by
  intro rest _
  rw [quoteChars, List.cons_append, List.append_assoc, List.singleton_append]
  unfold variant
  dsimp only
  rw [skipSpace_cons (show isSpace '"' = false from rfl)]
  simp only [textTail_quote, bind, Except.bind, h]
  rfl

/-! ## Records -/

theorem reads_of {name : String} {get : σ → Option β} {set : β → σ → σ} {read : Nat → Reader β}
    {s : σ} {b : β} {text : List Char} (h : Reads (read room) text b) :
    Reads ((Field.of name get set read).read room s) text (set b s) := by
  intro rest hrest
  simp only [Field.of, h rest hrest, bind, Except.bind]
  rfl

/-- A member that sets a field is taken, and those after it. -/
theorem Takes.field {fields : List (Field σ)} {f : Field σ} {key : String} {s s' s'' : σ}
    {text : List Char} {ms : List (String × List Char)} (hfind : fields.find? (·.name = key) = some f)
    (hset : f.isSet s = false) (hread : Reads (f.read room s) text s')
    (hs : Takes (fieldNamed room fields) s' ms s'') :
    Takes (fieldNamed room fields) s ((key, text) :: ms) s'' := by
  refine .cons (fun rest hrest => ?_) hs
  unfold fieldNamed
  simp only [hfind, hset]
  exact hread rest hrest

theorem reads_record (r : Record σ α) {ms : List (String × List Char)} {s : σ} {a : α}
    (h : Takes (fieldNamed room r.fields) r.empty ms s) (hclose : ∀ fault, r.close fault s = .ok a) :
    Reads (record r (room + 1)) ('\x7b' :: commaList '\x7d' (ms.map memberText)) a := by
  intro rest _
  rw [List.cons_append]
  unfold record
  rw [skipSpace_cons (show isSpace '\x7b' = false from rfl)]
  simp only [members_commaList h rest, bind, Except.bind, hclose]
  rfl

/-- A text that is read to its end by a reader of values is a document. -/
theorem document_of_reads {read : Nat → Reader α} {s : String} {a : α}
    (h : Reads (read maxDepth) s.toList a) : document read s = .ok a := by
  have hread := h [] ends_nil
  rw [List.append_nil] at hread
  rw [document, hread]
  rfl

end Flowline.Json.Reader
