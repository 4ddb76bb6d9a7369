import McpSql.Python.Str
import Mathlib.Data.Finset.Sort

/-!
# Sorted sets of strings

`sorted` on a set of strings: the elements in the order of `PyStr.le`.
-/

namespace Python

namespace PyStr

theorem le_refl (s : PyStr) : le s s = true := by
  induction s with
  | nil => rfl
  | cons c s ih => simp [le, ih]

theorem le_total (s t : PyStr) : le s t = true ∨ le t s = true := by
  induction s generalizing t with
  | nil => exact Or.inl rfl
  | cons c s ih =>
    cases t with
    | nil => exact Or.inr rfl
    | cons d t =>
      rcases Nat.lt_trichotomy c.val d.val with hlt | heq | hgt
      · exact Or.inl (by simp [le, hlt])
      · rcases ih t with h | h
        · exact Or.inl (by simp [le, heq, h])
        · exact Or.inr (by simp [le, heq, h])
      · exact Or.inr (by simp [le, hgt])

theorem le_antisymm {s t : PyStr} (h : le s t = true) (h' : le t s = true) : s = t := by
  induction s generalizing t with
  | nil =>
    cases t with
    | nil => rfl
    | cons d t => simp [le] at h'
  | cons c s ih =>
    cases t with
    | nil => simp [le] at h
    | cons d t =>
      simp only [le, Bool.or_eq_true, Bool.and_eq_true, decide_eq_true_eq] at h h'
      rcases h with hlt | ⟨hval, htail⟩
      · omega
      · rcases h' with hlt | ⟨-, htail'⟩
        · omega
        · rw [Fin.ext hval, ih htail htail']

theorem le_trans {s t u : PyStr} (h : le s t = true) (h' : le t u = true) : le s u = true := by
  induction s generalizing t u with
  | nil => rfl
  | cons c s ih =>
    cases t with
    | nil => simp [le] at h
    | cons d t =>
      cases u with
      | nil => simp [le] at h'
      | cons e u =>
        simp only [le, Bool.or_eq_true, Bool.and_eq_true, decide_eq_true_eq] at h h' ⊢
        rcases h with h | ⟨h, htail⟩
        · left
          omega
        · rcases h' with h' | ⟨h', htail'⟩
          · left
            omega
          · exact Or.inr ⟨by omega, ih htail htail'⟩

instance transLe : IsTrans PyStr fun s t => le s t = true := ⟨fun _ _ _ => le_trans⟩

instance antisymmLe : Std.Antisymm fun s t : PyStr => le s t = true := ⟨fun _ _ => le_antisymm⟩

instance totalLe : Std.Total fun s t : PyStr => le s t = true := ⟨le_total⟩

/-- `sorted(s)` of a set. -/
def sorted (s : Finset PyStr) : List PyStr := s.sort fun t u => le t u = true

@[simp] theorem mem_sorted {s : Finset PyStr} {t : PyStr} : t ∈ sorted s ↔ t ∈ s :=
  Finset.mem_sort _

@[simp] theorem sorted_empty : sorted ∅ = [] := Finset.sort_empty _

theorem sorted_eq_nil_iff {s : Finset PyStr} : sorted s = [] ↔ s = ∅ := by
  constructor
  · intro h
    ext t
    rw [← mem_sorted, h]
    simp
  · rintro rfl
    exact sorted_empty

/-- `str(words)` of a list of strings. -/
def reprList [UnicodeDatabase] (words : List PyStr) : PyStr :=
  lit "[" ++ (lit ", ").intercalate (words.map repr) ++ lit "]"

end PyStr

end Python
