import Mathlib.Data.List.Basic
import Mathlib.Data.List.Infix

/-!
# Framing a text by tags

A text is put between an opening and a closing tag, each on a line of its own, and both tags carry a
marker.  When the marker does not occur in the text, the tags occur nowhere but where they were put,
whatever else the text contains.
-/

namespace Framing

variable {α : Type}

/-! ## Occurrences -/

/-- The needle occurs in the text at a position. -/
def OccursAt (needle s : List α) (i : ℕ) : Prop :=
  ∃ front back, front.length = i ∧ s = front ++ (needle ++ back)

/-- The needle occurs in the text once, at a position. -/
def OccursOnlyAt (needle s : List α) (i : ℕ) : Prop := ∀ j, OccursAt needle s j ↔ j = i

theorem infix_of_occursAt {needle s : List α} {i : ℕ} (h : OccursAt needle s i) : needle <:+: s := by
  obtain ⟨front, back, -, rfl⟩ := h
  exact ⟨front, back, List.append_assoc _ _ _⟩

/-- A text as long as its needle has room for it at the start only. -/
theorem occursAt_self {needle : List α} {i : ℕ} (h : OccursAt needle needle i) : i = 0 := by
  obtain ⟨front, back, rfl, hneedle⟩ := h
  have hlength := congrArg List.length hneedle
  rw [List.length_append, List.length_append] at hlength
  omega

/-- A needle without the separator that occurs in two texts joined by it occurs in one of them. -/
theorem occursAt_append_cons {c : α} {needle s t : List α} {i : ℕ} (hc : c ∉ needle)
    (h : OccursAt needle (s ++ c :: t) i) :
    OccursAt needle s i ∨ ∃ j, i = s.length + 1 + j ∧ OccursAt needle t j := by
  obtain ⟨front, back, rfl, htext⟩ := h
  rcases List.append_eq_append_iff.mp htext with ⟨a, rfl, hrest⟩ | ⟨a, rfl, hrest⟩
  · -- it begins behind the first text
    rcases a with _ | ⟨d, a⟩
    · rcases needle with _ | ⟨e, needle⟩
      · exact Or.inl ⟨s, [], by simp, by simp⟩
      · obtain ⟨rfl, -⟩ := List.cons.inj hrest
        exact absurd List.mem_cons_self hc
    · obtain ⟨-, rfl⟩ := List.cons.inj hrest
      refine Or.inr ⟨a.length, ?_, a, back, rfl, rfl⟩
      rw [List.length_append, List.length_cons]
      omega
  · -- it begins in the first text
    rcases List.append_eq_append_iff.mp hrest with ⟨b, rfl, -⟩ | ⟨b, hneedle, hback⟩
    · exact Or.inl ⟨front, b, rfl, rfl⟩
    · rcases b with _ | ⟨d, b⟩
      · rw [List.append_nil] at hneedle
        exact Or.inl ⟨front, [], rfl, by rw [hneedle, List.append_nil]⟩
      · obtain ⟨rfl, -⟩ := List.cons.inj hback
        exact absurd (by simp [hneedle]) hc

/-! ## Fences -/

/-- Two tags with a marker, neither of which occurs in the other. -/
structure Fence (α : Type) where
  separator : α
  opening : List α
  closing : List α
  marker : List α
  separator_opening : separator ∉ opening
  separator_closing : separator ∉ closing
  marker_opening : marker <:+: opening
  marker_closing : marker <:+: closing
  opening_closing : ¬opening <:+: closing
  closing_opening : ¬closing <:+: opening

namespace Fence

variable (F : Fence α)

/-- A text between the tags. -/
def wrap (value : List α) : List α :=
  F.opening ++ F.separator :: (value ++ F.separator :: F.closing)

/-- What is left of a text without as much as the tags take. -/
def inner (s : List α) : List α :=
  (s.drop (F.opening.length + 1)).take
    (s.length - (F.opening.length + 1) - (F.closing.length + 1))

/-- The text between the tags, of a text that has them. -/
def unwrap [DecidableEq α] (s : List α) : Option (List α) :=
  if s = F.wrap (F.inner s) then some (F.inner s) else none

variable {F}

theorem inner_wrap (value : List α) : F.inner (F.wrap value) = value := by
  have hdrop : (F.wrap value).drop (F.opening.length + 1) = value ++ F.separator :: F.closing := by
    unfold wrap
    rw [List.drop_append]
    simp
  have hlength : (F.wrap value).length - (F.opening.length + 1) - (F.closing.length + 1) =
      value.length := by
    unfold wrap
    simp only [List.length_append, List.length_cons]
    omega
  unfold inner
  rw [hdrop, hlength, List.take_left]

/-- Stripping the tags undoes putting them. -/
theorem unwrap_eq_some [DecidableEq α] {s value : List α} :
    F.unwrap s = some value ↔ s = F.wrap value := by
  unfold unwrap
  constructor
  · intro h
    by_cases hwrap : s = F.wrap (F.inner s)
    · rw [if_pos hwrap] at h
      rw [← Option.some.inj h]
      exact hwrap
    · rw [if_neg hwrap] at h
      simp at h
  · rintro rfl
    rw [inner_wrap, if_pos rfl]

variable {value : List α}

/-- The opening tag stands at the start only. -/
theorem opening_once (h : ¬F.marker <:+: value) : OccursOnlyAt F.opening (F.wrap value) 0 := by
  intro i
  constructor
  · intro hopening
    rcases occursAt_append_cons F.separator_opening hopening with hself | ⟨j, -, hrest⟩
    · exact occursAt_self hself
    · rcases occursAt_append_cons F.separator_opening hrest with hvalue | ⟨k, -, hclosing⟩
      · exact absurd (F.marker_opening.trans (infix_of_occursAt hvalue)) h
      · exact absurd (infix_of_occursAt hclosing) F.opening_closing
  · rintro rfl
    exact ⟨[], _, rfl, rfl⟩

/-- The closing tag stands at the end only. -/
theorem closing_once (h : ¬F.marker <:+: value) :
    OccursOnlyAt F.closing (F.wrap value) ((F.wrap value).length - F.closing.length) := by
  have hlength : (F.wrap value).length - F.closing.length =
      F.opening.length + 1 + (value.length + 1) := by
    unfold wrap
    simp only [List.length_append, List.length_cons]
    omega
  intro i
  rw [hlength]
  constructor
  · intro hclosing
    rcases occursAt_append_cons F.separator_closing hclosing with hopening | ⟨j, rfl, hrest⟩
    · exact absurd (infix_of_occursAt hopening) F.closing_opening
    · rcases occursAt_append_cons F.separator_closing hrest with hvalue | ⟨k, rfl, hself⟩
      · exact absurd (F.marker_closing.trans (infix_of_occursAt hvalue)) h
      · rw [occursAt_self hself]
  · rintro rfl
    refine ⟨F.opening ++ F.separator :: (value ++ [F.separator]), [], ?_, ?_⟩
    · simp only [List.length_append, List.length_cons, List.length_nil]
      omega
    · simp [wrap]

end Fence

end Framing
