import Mathlib.Data.List.Forall2

/-!
# Computations that may raise

Rules for reading off what a computation in `Except ε` did from the fact that it returned: a
sequence returned when each part did, and a loop of checks returned when each check did.
-/

namespace Raising

variable {ε α β : Type}

/-- Stop with an exception when a condition holds. -/
def raiseIf (c : Prop) [Decidable c] (e : ε) : Except ε Unit := if c then .error e else .ok ()

@[simp] theorem raiseIf_eq_ok {c : Prop} [Decidable c] {e : ε} {u : Unit} :
    raiseIf c e = .ok u ↔ ¬c := by
  unfold raiseIf
  by_cases hc : c
  · simp [hc]
  · simp [hc]

@[simp] theorem raiseIf_eq_error {c : Prop} [Decidable c] {e e' : ε} :
    raiseIf c e = .error e' ↔ c ∧ e = e' := by
  unfold raiseIf
  by_cases hc : c
  · simp [hc]
  · simp [hc]

@[simp] theorem ok_bind (a : α) (f : α → Except ε β) : (Except.ok a >>= f) = f a := rfl

theorem error_bind (e : ε) (f : α → Except ε β) : (Except.error e >>= f) = .error e := rfl

/-- A sequence returns when both parts return. -/
theorem bind_eq_ok {x : Except ε α} {f : α → Except ε β} {b : β} :
    (x >>= f) = .ok b ↔ ∃ a, x = .ok a ∧ f a = .ok b := by
  cases x with
  | error e => simp [bind, Except.bind]
  | ok a => simp [bind, Except.bind]

/-- A sequence raises what its first part raises, or what its second part does. -/
theorem bind_eq_error {x : Except ε α} {f : α → Except ε β} {e : ε} :
    (x >>= f) = .error e ↔ x = .error e ∨ ∃ a, x = .ok a ∧ f a = .error e := by
  cases x with
  | error e' => simp [bind, Except.bind]
  | ok a => simp [bind, Except.bind]

/-- Renaming the exception does not change what is returned. -/
theorem mapError_eq_ok {ε' : Type} {f : ε → ε'} {x : Except ε α} {a : α} :
    x.mapError f = .ok a ↔ x = .ok a := by
  cases x with
  | error e => simp [Except.mapError]
  | ok b => simp [Except.mapError]

/-- A loop of checks returns exactly when each check does. -/
theorem forM_eq_ok {xs : List α} {f : α → Except ε Unit} {u : Unit} :
    forM xs f = .ok u ↔ ∀ x ∈ xs, f x = .ok () := by
  induction xs with
  | nil => simp [pure, Except.pure]
  | cons x xs ih =>
    have hstep : forM (x :: xs) f = .ok u ↔ f x = .ok () ∧ forM xs f = .ok u := by
      rw [List.forM_cons, bind_eq_ok]
      exact ⟨fun ⟨_, hx, hrest⟩ => ⟨hx, hrest⟩, fun ⟨hx, hrest⟩ => ⟨(), hx, hrest⟩⟩
    rw [hstep, ih]
    simp

/-- A loop over the parts of the elements is a loop over the elements, each with a loop over its
parts. -/
theorem forM_flatMap {xs : List α} {f : α → List β} {g : β → Except ε Unit} :
    forM (xs.flatMap f) g = forM xs fun x => forM (f x) g := by
  induction xs with
  | nil => rfl
  | cons x xs ih => rw [List.flatMap_cons, List.forM_append, ih, List.forM_cons]

/-- A loop over images. -/
theorem forM_map {xs : List α} {f : α → β} {g : β → Except ε Unit} :
    forM (xs.map f) g = forM xs fun x => g (f x) := by
  induction xs with
  | nil => rfl
  | cons x xs ih => rw [List.map_cons, List.forM_cons, ih, List.forM_cons]

/-- A comprehension returns exactly when it returns at each element. -/
theorem mapM_returns_iff {xs : List α} {f : α → Except ε β} :
    (∃ ys, xs.mapM f = .ok ys) ↔ ∀ x ∈ xs, ∃ y, f x = .ok y := by
  induction xs with
  | nil => simp [pure, Except.pure]
  | cons x xs ih =>
    have hstep : (∃ ys, (x :: xs).mapM f = .ok ys) ↔
        (∃ y, f x = .ok y) ∧ ∃ ys, xs.mapM f = .ok ys := by
      rw [List.mapM_cons]
      constructor
      · rintro ⟨ys, h⟩
        obtain ⟨y, hy, h⟩ := bind_eq_ok.mp h
        obtain ⟨rest, hrest, -⟩ := bind_eq_ok.mp h
        exact ⟨⟨y, hy⟩, ⟨rest, hrest⟩⟩
      · rintro ⟨⟨y, hy⟩, ⟨rest, hrest⟩⟩
        exact ⟨y :: rest, bind_eq_ok.mpr ⟨y, hy, bind_eq_ok.mpr ⟨rest, hrest, rfl⟩⟩⟩
    rw [hstep, ih]
    simp

/-- What a comprehension returns, element by element. -/
theorem mapM_eq_ok_iff {xs : List α} {f : α → Except ε β} {ys : List β} :
    xs.mapM f = .ok ys ↔ List.Forall₂ (fun x y => f x = .ok y) xs ys := by
  induction xs generalizing ys with
  | nil =>
    rw [List.mapM_nil, List.forall₂_nil_left_iff]
    simp [pure, Except.pure, eq_comm]
  | cons x xs ih =>
    rw [List.mapM_cons]
    constructor
    · intro h
      obtain ⟨y, hy, h⟩ := bind_eq_ok.mp h
      obtain ⟨rest, hrest, h⟩ := bind_eq_ok.mp h
      rw [← Except.ok.inj h]
      exact .cons hy (ih.mp hrest)
    · intro h
      rcases h with _ | ⟨hy, hrest⟩
      exact bind_eq_ok.mpr ⟨_, hy, bind_eq_ok.mpr ⟨_, ih.mpr hrest, rfl⟩⟩

/-- Every right element of related lists is related to a left one. -/
theorem exists_of_forall₂_right {R : α → β → Prop} {xs : List α} {ys : List β}
    (hrelated : List.Forall₂ R xs ys) {y : β} (hy : y ∈ ys) : ∃ x ∈ xs, R x y := by
  induction hrelated with
  | nil => exact absurd hy List.not_mem_nil
  | cons hxy hrest ih =>
    rcases List.mem_cons.mp hy with rfl | hy
    · exact ⟨_, List.mem_cons_self, hxy⟩
    · obtain ⟨x, hx, hxy'⟩ := ih hy
      exact ⟨x, List.mem_cons_of_mem _ hx, hxy'⟩

/-- Every left element of related lists is related to a right one. -/
theorem exists_of_forall₂_left {R : α → β → Prop} {xs : List α} {ys : List β}
    (hrelated : List.Forall₂ R xs ys) {x : α} (hx : x ∈ xs) : ∃ y ∈ ys, R x y := by
  have hflipped : List.Forall₂ (flip R) ys xs := List.Forall₂.flip hrelated
  exact exists_of_forall₂_right hflipped hx

/-- What a comprehension returns comes from the elements. -/
theorem exists_of_mem_mapM {xs : List α} {f : α → Except ε β} {ys : List β} {y : β}
    (h : xs.mapM f = .ok ys) (hy : y ∈ ys) : ∃ x ∈ xs, f x = .ok y :=
  exists_of_forall₂_right (mapM_eq_ok_iff.mp h) hy

/-- A relation that says something about the left elements only, along a related list. -/
theorem forall₂_iff_forall_mem {R S : α → β → Prop} {p : α → Prop} {xs : List α} {ys : List β}
    (hrelated : List.Forall₂ R xs ys) (hsame : ∀ x y, R x y → (S x y ↔ p x)) :
    List.Forall₂ S xs ys ↔ ∀ x ∈ xs, p x := by
  induction hrelated with
  | nil => simp
  | cons hxy hrest ih => rw [List.forall₂_cons, List.forall_mem_cons, ih, hsame _ _ hxy]

/-! ## The classes a computation raises -/

/-- Every exception of a computation is one a handler selects. -/
def Confined (p : ε → Bool) (x : Except ε α) : Prop := ∀ e, x = .error e → p e = true

@[simp] theorem confined_ok (p : ε → Bool) (a : α) : Confined p (.ok a : Except ε α) := by
  intro e h
  simp at h

@[simp] theorem confined_error {p : ε → Bool} {e : ε} :
    Confined p (.error e : Except ε α) ↔ p e = true := by
  constructor
  · intro h
    exact h e rfl
  · intro h e' he
    obtain rfl : e = e' := by simpa using he
    exact h

/-- A sequence is confined when its first part is, and its second part where it is reached. -/
theorem confined_bind {p : ε → Bool} {x : Except ε α} {f : α → Except ε β} :
    Confined p (x >>= f) ↔ Confined p x ∧ ∀ a, x = .ok a → Confined p (f a) := by
  cases x with
  | ok a =>
    have hbind : (Except.ok a >>= f) = f a := rfl
    rw [hbind]
    simp
  | error e =>
    have hbind : (Except.error e >>= f) = .error e := rfl
    rw [hbind]
    simp

/-- A result is passed on with the exceptions of the computation it comes from. -/
theorem confined_map {p : ε → Bool} {x : Except ε α} {f : α → β} :
    Confined p (f <$> x) ↔ Confined p x := by
  cases x with
  | ok a => exact iff_of_true (confined_ok p _) (confined_ok p a)
  | error e => exact confined_error.trans confined_error.symm

/-- The elements a loop comes to when it stops at the first that does not pass. -/
def ComesTo (passes : α → Prop) (xs : List α) (x : α) : Prop :=
  ∃ before after, xs = before ++ x :: after ∧ ∀ y ∈ before, passes y

theorem not_comesTo_nil {passes : α → Prop} {x : α} : ¬ComesTo passes [] x := by
  rintro ⟨before, after, hxs, -⟩
  simp at hxs

theorem comesTo_cons_iff {passes : α → Prop} {x y : α} {xs : List α} :
    ComesTo passes (x :: xs) y ↔ y = x ∨ (passes x ∧ ComesTo passes xs y) := by
  constructor
  · rintro ⟨before, after, hxs, hbefore⟩
    cases before with
    | nil => exact Or.inl (List.cons.inj hxs).1.symm
    | cons z before =>
      obtain ⟨rfl, rfl⟩ := List.cons.inj hxs
      refine Or.inr ⟨hbefore x List.mem_cons_self, before, after, rfl, ?_⟩
      exact fun y hy => hbefore y (List.mem_cons_of_mem _ hy)
  · rintro (rfl | ⟨hx, before, after, rfl, hbefore⟩)
    · exact ⟨[], xs, rfl, by simp⟩
    · refine ⟨x :: before, after, rfl, ?_⟩
      rintro z hz
      rcases List.mem_cons.mp hz with rfl | hz
      · exact hx
      · exact hbefore z hz

theorem ComesTo.mem {passes : α → Prop} {x : α} {xs : List α} (h : ComesTo passes xs x) :
    x ∈ xs := by
  obtain ⟨before, after, rfl, -⟩ := h
  simp

/-- A loop of checks raises what the first check that does not pass raises. -/
theorem forM_eq_error {xs : List α} {f : α → Except ε Unit} {e : ε} :
    forM xs f = .error e ↔ ∃ x, ComesTo (fun y => f y = .ok ()) xs x ∧ f x = .error e := by
  induction xs with
  | nil => exact iff_of_false (by simp [pure, Except.pure]) fun ⟨x, hx, _⟩ => not_comesTo_nil hx
  | cons x xs ih =>
    rw [List.forM_cons, bind_eq_error]
    simp only [comesTo_cons_iff, ih]
    constructor
    · rintro (hx | ⟨u, hx, y, hy, herror⟩)
      · exact ⟨x, Or.inl rfl, hx⟩
      · exact ⟨y, Or.inr ⟨hx, hy⟩, herror⟩
    · rintro ⟨y, rfl | ⟨hx, hy⟩, herror⟩
      · exact Or.inl herror
      · exact Or.inr ⟨(), hx, y, hy, herror⟩

/-- What holds of the first element, and of the rest once the first passes, holds of all it
comes to. -/
theorem forall_comesTo_cons_iff {passes p : α → Prop} {x : α} {xs : List α} :
    (∀ y, ComesTo passes (x :: xs) y → p y) ↔
      p x ∧ (passes x → ∀ y, ComesTo passes xs y → p y) := by
  simp only [comesTo_cons_iff]
  constructor
  · intro h
    exact ⟨h x (Or.inl rfl), fun hx y hy => h y (Or.inr ⟨hx, hy⟩)⟩
  · rintro ⟨hfirst, hrest⟩ y (rfl | ⟨hx, hy⟩)
    · exact hfirst
    · exact hrest hx y hy

/-- A loop of checks is confined when each check it comes to is. -/
theorem confined_forM {p : ε → Bool} {passes : α → Prop} {xs : List α} {f : α → Except ε Unit}
    (hpasses : ∀ x, f x = .ok () ↔ passes x) :
    Confined p (forM xs f) ↔ ∀ x, ComesTo passes xs x → Confined p (f x) := by
  induction xs with
  | nil => exact iff_of_true (confined_ok p _) fun x hx => absurd hx not_comesTo_nil
  | cons x xs ih =>
    rw [List.forM_cons, confined_bind, ih, forall_comesTo_cons_iff, ← hpasses x]
    constructor
    · rintro ⟨hx, hrest⟩
      exact ⟨hx, fun hpass => hrest () hpass⟩
    · rintro ⟨hx, hrest⟩
      exact ⟨hx, fun _ hpass => hrest hpass⟩

/-- Renamed exceptions are confined when every one of their names is. -/
theorem confined_mapError {ε' : Type} {p : ε' → Bool} {f : ε → ε'} (h : ∀ e, p (f e) = true)
    (x : Except ε α) : Confined p (x.mapError f) := by
  cases x with
  | ok a => exact confined_ok p a
  | error e => exact confined_error.mpr (h e)

end Raising
