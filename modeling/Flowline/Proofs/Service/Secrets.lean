import Flowline.Service
import Mathlib.Data.List.Forall2

/-!
# The secrets of a run

A run finds the secrets of its pipeline in its environment, each under a variable that is made of its
name.  Making it takes the difference between small and capital letters and that between signs away, so
names may come to share a variable; then the run finds there what was named last.
-/

namespace Flowline

/-! ## The latest entry -/

namespace Table

variable {α : Type}

theorem get?_foldl_insert (entries : List (String × α)) (t : Table α) (key : String) :
    (entries.foldl (fun t (k, v) => t.insert k v) t).get? key =
      (entries.reverse.lookup key).or (t.get? key) := by
  induction entries generalizing t with
  | nil => rfl
  | cons e entries ih =>
    obtain ⟨k, v⟩ := e
    rw [List.foldl_cons, ih, List.reverse_cons, List.lookup_append, Option.or_assoc]
    congr 1
    by_cases hkey : key = k
    · simp [hkey]
    · have hne : (key == k) = false := by simpa using hkey
      simp [get?_insert_of_ne, hkey, List.lookup_cons, hne]

/-- Of several entries with one key the last counts. -/
theorem get?_ofList (entries : List (String × α)) (key : String) :
    (ofList entries).get? key = entries.reverse.lookup key := by
  unfold ofList
  rw [get?_foldl_insert, get?_nil, Option.or_none]

theorem lookup_filterMap {β : Type} (f : β → Option (String × α)) (xs : List β) (key : String) :
    (xs.filterMap f).lookup key = xs.findSome? fun x => (f x).bind fun (k, v) =>
      if key = k then some v else none := by
  induction xs with
  | nil => rfl
  | cons x xs ih =>
    rw [List.findSome?_cons, ← ih]
    cases hx : f x with
    | none => simp [hx]
    | some e =>
      obtain ⟨k, v⟩ := e
      rw [List.filterMap_cons_some hx, List.lookup_cons]
      by_cases hkey : key = k
      · simp [hkey]
      · have hne : (key == k) = false := by simpa using hkey
        simp [hkey, hne]

end Table

/-! ## Variables -/

namespace Secrets

/-- Two characters that are one in the name of a variable: a letter in either case, or any two
signs. -/
def AlikeChar (c d : Char) : Prop :=
  Text.isLetterOrDigit c = Text.isLetterOrDigit d ∧
    (Text.isLetterOrDigit c = true → c.toUpper = d.toUpper)

/-- Two names whose characters are alike, one by one. -/
def Alike (a b : String) : Prop := List.Forall₂ AlikeChar a.toList b.toList

/-- No letter and no digit becomes what stands for a sign. -/
theorem toUpper_ne {c : Char} (h : Text.isLetterOrDigit c = true) : c.toUpper ≠ '_' := by
  intro hupper
  unfold Char.toUpper at hupper
  split at hupper
  · rename_i hlower
    have hz : c.val.toNat ≤ 122 := UInt32.le_iff_toNat_le.mp hlower.2
    have hval := congrArg (fun d : Char => d.val.toNat) hupper
    have hshift : ('A'.val - 'a'.val).toNat = 4294967264 := by decide
    have hsign : '_'.val.toNat = 95 := by decide
    simp only [UInt32.toNat_add] at hval
    omega
  · rw [hupper] at h
    revert h
    decide

theorem alikeChar_iff {c d : Char} :
    (if Text.isLetterOrDigit c then c.toUpper else '_') =
      (if Text.isLetterOrDigit d then d.toUpper else '_') ↔ AlikeChar c d := by
  unfold AlikeChar
  cases hc : Text.isLetterOrDigit c with
  | true =>
    cases hd : Text.isLetterOrDigit d with
    | true => simp
    | false => simp [toUpper_ne hc]
  | false =>
    cases hd : Text.isLetterOrDigit d with
    | true => simp [(toUpper_ne hd).symm]
    | false => simp

/-- Names have one variable exactly if they are alike. -/
theorem envVar_eq_iff {a b : String} : envVar a = envVar b ↔ Alike a b := by
  unfold envVar Alike
  rw [String.append_right_inj, String.ofList_inj, ← List.forall₂_eq_eq_eq,
    List.forall₂_map_left_iff, List.forall₂_map_right_iff]
  constructor
  · exact List.Forall₂.imp fun c d h => alikeChar_iff.mp h
  · exact List.Forall₂.imp fun c d h => alikeChar_iff.mpr h

end Secrets

/-! ## The environment of a run -/

namespace Service

variable {s : Service} {p : Pipeline} {name key value : String}

/-- A node refers to a secret: a field that its kind binds to a secret has the name. -/
def Refers (s : Service) (p : Pipeline) (name : String) : Prop :=
  ∃ n ∈ p.nodes, ∃ schema, s.catalog.schemas.get? n.kind = some schema ∧
    ∃ binding field, .secret binding field ∈ schema.bindings ∧ n.text? field = some name

theorem mem_secretNames : name ∈ s.secretNames p ↔ s.Refers p name := by
  unfold secretNames Refers
  rw [List.mem_flatMap]
  refine exists_congr fun n => and_congr_right fun _ => ?_
  cases hschema : s.catalog.schemas.get? n.kind with
  | none => simp
  | some schema =>
    simp only [Option.some.injEq, exists_eq_left', KindSchema.secrets, List.mem_filterMap]
    constructor
    · rintro ⟨b, hb, hname⟩
      cases b with
      | secret binding field => exact ⟨binding, field, hb, hname⟩
      | chain _ _ _ => cases hname
      | contract _ _ _ => cases hname
    · rintro ⟨binding, field, hb, hname⟩
      exact ⟨_, hb, hname⟩

/-- A variable has the value of the last name whose variable it is, among those with a value. -/
theorem get?_secretEnv (key : String) :
    (s.secretEnv p).get? key = (s.secretNames p).reverse.findSome? fun name =>
      if Secrets.envVar name = key then s.secrets.value? name else none := by
  unfold secretEnv
  rw [Table.get?_ofList, ← List.filterMap_reverse, Table.lookup_filterMap]
  congr 1
  funext name
  by_cases hkey : Secrets.envVar name = key
  · cases hvalue : s.secrets.value? name with
    | none => simp
    | some value => simp [hkey]
  · cases hvalue : s.secrets.value? name with
    | none => simp
    | some value => simp [hkey, Ne.symm hkey]

theorem get?_secretEnv_eq_some_iff :
    (s.secretEnv p).get? key = some value ↔ ∃ before name after,
      s.secretNames p = before ++ name :: after ∧ Secrets.envVar name = key ∧
      s.secrets.value? name = some value ∧
      ∀ later ∈ after, Secrets.envVar later = key → s.secrets.value? later = none := by
  rw [get?_secretEnv, List.findSome?_eq_some_iff]
  constructor
  · rintro ⟨after, name, before, hnames, hname, hafter⟩
    refine ⟨before.reverse, name, after.reverse, ?_, ?_⟩
    · rw [← List.reverse_inj, hnames]
      simp
    · split at hname
      · rename_i hkey
        refine ⟨hkey, hname, fun later hlater hlaterKey => ?_⟩
        have hnone := hafter later (List.mem_reverse.mp hlater)
        rwa [if_pos hlaterKey] at hnone
      · cases hname
  · rintro ⟨before, name, after, hnames, hkey, hvalue, hafter⟩
    refine ⟨after.reverse, name, before.reverse, by simp [hnames], ?_, fun later hlater => ?_⟩
    · rw [if_pos hkey, hvalue]
    · split
      · rename_i hlaterKey
        exact hafter later (List.mem_reverse.mp hlater) hlaterKey
      · rfl

/-- Of a secret that is referred to and known the run finds its value, or that of one alike. -/
theorem exists_get?_secretEnv (hname : s.Refers p name)
    (hvalue : s.secrets.value? name = some value) :
    ∃ other found, s.Refers p other ∧ Secrets.Alike other name ∧
      s.secrets.value? other = some found ∧
      (s.secretEnv p).get? (Secrets.envVar name) = some found := by
  cases hfound : (s.secretEnv p).get? (Secrets.envVar name) with
  | none =>
    rw [get?_secretEnv, List.findSome?_eq_none_iff] at hfound
    have hnone := hfound name (List.mem_reverse.mpr (mem_secretNames.mpr hname))
    rw [if_pos rfl, hvalue] at hnone
    cases hnone
  | some found =>
    obtain ⟨before, other, after, hnames, hkey, hother, -⟩ := get?_secretEnv_eq_some_iff.mp hfound
    have hrefers : s.Refers p other := mem_secretNames.mp (by simp [hnames])
    exact ⟨other, found, hrefers, Secrets.envVar_eq_iff.mp hkey, hother, rfl⟩

/-- What the environment of a run tells of the secrets of its pipeline. -/
structure HandsOver (s : Service) (p : Pipeline) : Prop where
  /-- The names are those that the nodes refer to. -/
  names : ∀ name, name ∈ s.secretNames p ↔ s.Refers p name
  /-- A variable has the value of the last name whose variable it is, among those with a value. -/
  last : ∀ key value, (s.secretEnv p).get? key = some value ↔ ∃ before name after,
    s.secretNames p = before ++ name :: after ∧ Secrets.envVar name = key ∧
    s.secrets.value? name = some value ∧
    ∀ later ∈ after, Secrets.envVar later = key → s.secrets.value? later = none
  /-- Names share a variable exactly if they are alike. -/
  shared : ∀ a b, Secrets.envVar a = Secrets.envVar b ↔ Secrets.Alike a b
  /-- Every secret is found as it is exactly if those whose names are alike have one value. -/
  unchanged : (∀ name value, s.Refers p name → s.secrets.value? name = some value →
      (s.secretEnv p).get? (Secrets.envVar name) = some value) ↔
    ∀ a b v w, s.Refers p a → s.Refers p b → Secrets.Alike a b → s.secrets.value? a = some v →
      s.secrets.value? b = some w → v = w

theorem handsOver (s : Service) (p : Pipeline) : s.HandsOver p := by
  constructor
  case names => exact fun name => mem_secretNames
  case last => exact fun key value => get?_secretEnv_eq_some_iff
  case shared => exact fun a b => Secrets.envVar_eq_iff
  case unchanged =>
    constructor
    · intro hall a b v w ha hb halike hv hw
      have hav := hall a v ha hv
      have hbw := hall b w hb hw
      rw [Secrets.envVar_eq_iff.mpr halike, hbw] at hav
      exact (Option.some.inj hav).symm
    · intro hone name value hname hvalue
      obtain ⟨other, found, hother, halike, hfound, hget⟩ := exists_get?_secretEnv hname hvalue
      rw [hget, hone other name found value hother hname halike hfound hvalue]

/-- Two requests with a credential each, whose names differ in a sign. -/
def alikeSecrets : Pipeline where
  id := "alike-secrets"
  name := "Alike secrets"
  version := 1
  nodes := [
    ⟨"hook", .trigger, "http-trigger", [("method", .string "POST")], .ready, none⟩,
    ⟨"first", .capability, "http-fetch", [("url", .string "https://example.com/first"),
      ("method", .string "GET"), ("authSecret", .string "api-key")], .ready, none⟩,
    ⟨"second", .capability, "http-fetch", [("url", .string "https://example.com/second"),
      ("method", .string "GET"), ("authSecret", .string "api_key")], .ready, none⟩,
    ⟨"note", .logic, "log", [("message", .string "done")], .ready, none⟩]
  edges := [
    ⟨none, "hook", "payload", "first", "in"⟩, ⟨none, "first", "body", "second", "in"⟩,
    ⟨none, "second", "body", "note", "in"⟩]

/-- A valid pipeline whose run finds the credential of the second request in place of the first. -/
theorem secretEnv_overwrites :
    let secrets := Secrets.ofValues [("api-key", "dash"), ("api_key", "under")]
    let s := Service.new Catalog.builtin secrets Chains.standard {} []
    alikeSecrets.validate s.catalog.schemas = [] ∧ s.Refers alikeSecrets "api-key" ∧
      s.secrets.value? "api-key" = some "dash" ∧
      (s.secretEnv alikeSecrets).get? (Secrets.envVar "api-key") = some "under" := by
  intro secrets s
  refine ⟨?_, ?_, ?_, ?_⟩
  · decide +kernel
  · rw [← mem_secretNames]
    decide +kernel
  · decide +kernel
  · decide +kernel

end Service

end Flowline
