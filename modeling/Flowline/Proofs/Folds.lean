import Mathlib.Data.List.Forall2
import Mathlib.Data.List.Induction

/-!
# Computations that may fail

What follows from the success of a sequence, a fold or a traversal of computations that may fail, and
when such a fold or traversal succeeds or fails in a given way.
-/

namespace Flowline

variable {ε α β : Type}

/-- What holds of every member of a list and the members before it holds of one put at its end. -/
theorem forall_split_concat {P : List α → α → Prop} {xs : List α} {a : α}
    (h : ∀ l x l', xs = l ++ x :: l' → P l x) (ha : P xs a) :
    ∀ l x l', xs ++ [a] = l ++ x :: l' → P l x := by
  intro l x l' heq
  rcases List.eq_nil_or_concat l' with rfl | ⟨l'', z, rfl⟩
  · obtain ⟨rfl, hx⟩ := List.append_inj' heq rfl
    obtain rfl : a = x := by simpa using hx
    exact ha
  · have heq' : xs ++ [a] = (l ++ x :: l'') ++ [z] := by simpa using heq
    obtain ⟨hxs, -⟩ := List.append_inj' heq' rfl
    exact h l x l'' hxs

/-- What holds of every member of a list once it holds of those before it holds of all. -/
theorem forall_mem_of_before {P : α → Prop} {xs : List α}
    (h : ∀ l x l', xs = l ++ x :: l' → (∀ y ∈ l, P y) → P x) : ∀ x ∈ xs, P x := by
  suffices hpre : ∀ l l', xs = l ++ l' → ∀ x ∈ l, P x from hpre xs [] (by simp)
  intro l
  induction l using List.reverseRecOn with
  | nil => exact fun _ _ x hx => by simp at hx
  | append_singleton l y ih =>
    intro l' heq x hx
    have heq' : xs = l ++ y :: l' := by simpa using heq
    rcases List.mem_append.mp hx with hx | hx
    · exact ih (y :: l') heq' x hx
    · rw [List.mem_singleton.mp hx]
      exact h l y l' heq' (ih (y :: l') heq')

theorem bind_eq_ok_iff {x : Except ε α} {f : α → Except ε β} {b : β} :
    (x >>= f) = .ok b ↔ ∃ a, x = .ok a ∧ f a = .ok b := by
  cases x with
  | error e => simp [bind, Except.bind]
  | ok a => simp [bind, Except.bind]

/-- What has been changed in place stays changed, whether or not what follows is carried out. -/
theorem run_bind {σ : Type} (x : ExceptT ε (StateM σ) α) (f : α → ExceptT ε (StateM σ) β) (s : σ) :
    (x >>= f).run.run s = match x.run.run s with
      | (.ok a, t) => (f a).run.run t
      | (.error e, t) => (.error e, t) := by
  rw [ExceptT.run_bind, StateT.run_bind]
  rcases x.run.run s with ⟨answer, t⟩
  cases answer with
  | ok a => rfl
  | error e => rfl

theorem isOk_iff {x : Except ε α} : x.isOk = true ↔ ∃ a, x = .ok a := by
  cases x with
  | error e => simp [Except.isOk, Except.toBool]
  | ok a => simp [Except.isOk, Except.toBool]

/-- What every successful step of a fold keeps holds at its end. -/
theorem foldlM_induction {f : β → α → Except ε β} {P : List α → β → Prop}
    (hstep : ∀ pre x b b', P pre b → f b x = .ok b' → P (pre ++ [x]) b') :
    ∀ (xs pre : List α) (b b' : β), P pre b → xs.foldlM f b = .ok b' → P (pre ++ xs) b' := by
  intro xs
  induction xs with
  | nil =>
    intro pre b b' hb h
    obtain rfl : b = b' := by simpa [pure, Except.pure] using h
    simpa using hb
  | cons x xs ih =>
    intro pre b b' hb h
    rw [List.foldlM_cons, bind_eq_ok_iff] at h
    obtain ⟨c, hc, h⟩ := h
    simpa using ih (pre ++ [x]) c b' (hstep pre x b c hb hc) h

/-- A fold whose steps succeed or fail with an error of some sort does one or the other. -/
theorem foldlM_progress {f : β → α → Except ε β} {P : List α → β → Prop} {E : ε → Prop} :
    ∀ (xs pre : List α) (b : β), P pre b →
      (∀ l x l', xs = l ++ x :: l' → ∀ b, P (pre ++ l) b →
        (∃ b', f b x = .ok b' ∧ P (pre ++ l ++ [x]) b') ∨ ∃ e, f b x = .error e ∧ E e) →
      (∃ b', xs.foldlM f b = .ok b') ∨ ∃ e, xs.foldlM f b = .error e ∧ E e := by
  intro xs
  induction xs with
  | nil => exact fun _ b _ _ => Or.inl ⟨b, rfl⟩
  | cons x xs ih =>
    intro pre b hb hstep
    rw [List.foldlM_cons]
    rcases hstep [] x xs rfl b (by simpa using hb) with ⟨c, hc, hP⟩ | ⟨e, he, hE⟩
    · rw [hc]
      refine ih (pre ++ [x]) c (by simpa using hP) fun l y l' heq b hb => ?_
      simpa using hstep (x :: l) y l' (by simp [heq]) b (by simpa using hb)
    · rw [he]
      exact Or.inr ⟨e, rfl, hE⟩

/-- A fold that succeeds is followed step by step by another over the same list, if each of its steps
is. -/
theorem foldlM_simulation {γ : Type} {f : β → α → Except ε β} {g : γ → α → Except ε γ}
    {R : β → γ → Prop}
    (hstep : ∀ x b b' c, R b c → f b x = .ok b' → ∃ c', g c x = .ok c' ∧ R b' c') :
    ∀ (xs : List α) (b b' : β) (c : γ), R b c → xs.foldlM f b = .ok b' →
      ∃ c', xs.foldlM g c = .ok c' ∧ R b' c' := by
  intro xs
  induction xs with
  | nil =>
    intro b b' c hR h
    obtain rfl : b = b' := by simpa [pure, Except.pure] using h
    exact ⟨c, rfl, hR⟩
  | cons x xs ih =>
    intro b b' c hR h
    rw [List.foldlM_cons, bind_eq_ok_iff] at h
    obtain ⟨b₁, hb₁, h⟩ := h
    obtain ⟨c₁, hc₁, hR₁⟩ := hstep x b b₁ c hR hb₁
    obtain ⟨c', hc', hR'⟩ := ih b₁ b' c₁ hR₁ h
    exact ⟨c', by rw [List.foldlM_cons, hc₁]; exact hc', hR'⟩

theorem mapM_eq_ok_iff {f : α → Except ε β} {xs : List α} {ys : List β} :
    xs.mapM f = .ok ys ↔ List.Forall₂ (fun x y => f x = .ok y) xs ys := by
  induction xs generalizing ys with
  | nil => simp [pure, Except.pure, eq_comm]
  | cons x xs ih =>
    simp only [List.mapM_cons, bind_eq_ok_iff, ih, pure, Except.pure, Except.ok.injEq,
      List.forall₂_cons_left_iff]
    constructor
    · rintro ⟨y, hy, zs, hzs, rfl⟩
      exact ⟨y, zs, hy, hzs, rfl⟩
    · rintro ⟨y, zs, hy, hzs, rfl⟩
      exact ⟨y, hy, zs, hzs, rfl⟩

/-- What a traversal makes, it makes from some member. -/
theorem exists_mem_of_forall₂ {R : α → β → Prop} {xs : List α} {ys : List β}
    (h : List.Forall₂ R xs ys) {y : β} (hy : y ∈ ys) : ∃ x ∈ xs, R x y := by
  induction h with
  | nil => simp at hy
  | cons hR _ ih =>
    rcases List.mem_cons.mp hy with rfl | hy
    · exact ⟨_, List.mem_cons_self, hR⟩
    · obtain ⟨x, hx, hR⟩ := ih hy
      exact ⟨x, List.mem_cons_of_mem _ hx, hR⟩

theorem eq_of_forall₂ {R : α → α → Prop} {xs ys : List α} (h : List.Forall₂ R xs ys)
    (heq : ∀ x ∈ xs, ∀ y, R x y → y = x) : ys = xs := by
  induction h with
  | nil => rfl
  | cons hR _ ih =>
    rw [heq _ List.mem_cons_self _ hR, ih fun x hx => heq x (List.mem_cons_of_mem _ hx)]

/-- Of two values that may be missing both are, or neither is. -/
theorem none_or_some_of_rel {R : α → β → Prop} {x : Option α} {y : Option β} (h : Option.Rel R x y) :
    (x = none ∧ y = none) ∨ ∃ a b, x = some a ∧ y = some b ∧ R a b := by
  cases h with
  | none => exact Or.inl ⟨rfl, rfl⟩
  | some hR => exact Or.inr ⟨_, _, rfl, rfl, hR⟩

/-- A traversal that succeeds is followed part by part by another over the same list. -/
theorem mapM_simulation {γ : Type} {f : α → Except ε β} {g : α → Except ε γ} {R : β → γ → Prop}
    (hpart : ∀ x b, f x = .ok b → ∃ c, g x = .ok c ∧ R b c) {xs : List α} {ys : List β}
    (h : xs.mapM f = .ok ys) : ∃ zs, xs.mapM g = .ok zs ∧ List.Forall₂ R ys zs := by
  rw [mapM_eq_ok_iff] at h
  induction h with
  | nil => exact ⟨[], rfl, .nil⟩
  | cons hx _ ih =>
    obtain ⟨c, hc, hR⟩ := hpart _ _ hx
    obtain ⟨zs, hzs, hall⟩ := ih
    exact ⟨c :: zs, by rw [List.mapM_cons, hc, bind_eq_ok_iff]; exact ⟨c, rfl, by rw [hzs]; rfl⟩,
      .cons hR hall⟩

/-- A traversal whose parts succeed or fail with an error of some sort does one or the other. -/
theorem mapM_progress {f : α → Except ε β} {E : ε → Prop} {xs : List α}
    (h : ∀ x ∈ xs, (∃ y, f x = .ok y) ∨ ∃ e, f x = .error e ∧ E e) :
    (∃ ys, xs.mapM f = .ok ys) ∨ ∃ e, xs.mapM f = .error e ∧ E e := by
  induction xs with
  | nil => exact Or.inl ⟨[], rfl⟩
  | cons x xs ih =>
    rw [List.mapM_cons]
    rcases h x (by simp) with ⟨y, hy⟩ | ⟨e, he, hE⟩
    · rw [hy]
      rcases ih fun z hz => h z (by simp [hz]) with ⟨ys, hys⟩ | ⟨e, he, hE⟩
      · exact Or.inl ⟨y :: ys, by rw [hys]; rfl⟩
      · exact Or.inr ⟨e, by rw [he]; rfl, hE⟩
    · rw [he]
      exact Or.inr ⟨e, rfl, hE⟩

/-! ## Two computations -/

section EndsAlike

variable {γ α' γ' : Type} {R : β → γ → Prop}

/-- Two computations fail with one error, or both succeed, with results that are related. -/
inductive EndsAlike (R : β → γ → Prop) : Except ε β → Except ε γ → Prop
  | error (e : ε) : EndsAlike R (.error e) (.error e)
  | ok {b : β} {c : γ} (h : R b c) : EndsAlike R (.ok b) (.ok c)

theorem EndsAlike.of_eq {x y : Except ε β} (h : x = y) : EndsAlike Eq x y := by
  subst h
  cases x with
  | error e => exact .error e
  | ok b => exact .ok rfl

theorem EndsAlike.error_or_ok {x : Except ε β} {y : Except ε γ} (h : EndsAlike R x y) :
    (∃ e, x = .error e ∧ y = .error e) ∨ ∃ b c, x = .ok b ∧ y = .ok c ∧ R b c := by
  cases h with
  | error e => exact Or.inl ⟨e, rfl, rfl⟩
  | ok hR => exact Or.inr ⟨_, _, rfl, rfl, hR⟩

theorem EndsAlike.bind {S : α' → γ' → Prop} {x : Except ε β} {y : Except ε γ} {f : β → Except ε α'}
    {g : γ → Except ε γ'} (h : EndsAlike R x y) (hnext : ∀ b c, R b c → EndsAlike S (f b) (g c)) :
    EndsAlike S (x >>= f) (y >>= g) := by
  cases h with
  | error e => exact .error e
  | ok hR => exact hnext _ _ hR

/-- Two folds over one list end alike if each step does. -/
theorem endsAlike_foldlM {f : β → α → Except ε β} {g : γ → α → Except ε γ} {xs : List α}
    (hstep : ∀ x ∈ xs, ∀ b c, R b c → EndsAlike R (f b x) (g c x)) {b : β} {c : γ} (h : R b c) :
    EndsAlike R (xs.foldlM f b) (xs.foldlM g c) := by
  induction xs generalizing b c with
  | nil => exact .ok h
  | cons x xs ih =>
    rw [List.foldlM_cons, List.foldlM_cons]
    refine (hstep x List.mem_cons_self b c h).bind fun b' c' h' => ih (fun y hy => ?_) h'
    exact hstep y (List.mem_cons_of_mem x hy)

/-- Two traversals of one list end alike if each part does. -/
theorem endsAlike_mapM {f : α → Except ε β} {g : α → Except ε γ} {xs : List α}
    (hpart : ∀ x ∈ xs, EndsAlike R (f x) (g x)) :
    EndsAlike (List.Forall₂ R) (xs.mapM f) (xs.mapM g) := by
  induction xs with
  | nil => exact .ok .nil
  | cons x xs ih =>
    rw [List.mapM_cons, List.mapM_cons]
    refine (hpart x List.mem_cons_self).bind fun b c h => ?_
    exact (ih fun y hy => hpart y (List.mem_cons_of_mem x hy)).bind fun bs cs hs => .ok (.cons h hs)

end EndsAlike

end Flowline
