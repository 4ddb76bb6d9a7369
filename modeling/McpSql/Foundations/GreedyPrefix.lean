import Mathlib.Algebra.GroupWithZero.Nat
import McpSql.Foundations.Raising

/-!
# Taking a prefix within a budget

A loop that measures the elements of a list one after another, keeps the first in any case and each
further one while the sum of the sizes stays within a budget, and stops at the first that does not
fit.  Measuring may raise, and nothing behind the stop is measured.
-/

namespace GreedyPrefix

open Raising

variable {ε α β : Type} {measure : α → Except ε (β × ℕ)} {budget : ℤ}

/-- The state of the loop: what is kept, its size, and whether an element was dropped. -/
structure Kept (β : Type) where
  kept : List β
  total : ℕ
  cut : Bool
  deriving DecidableEq, Repr

/-- The loop, from what is kept so far. -/
def loop (measure : α → Except ε (β × ℕ)) (budget : ℤ) (kept : List β) (total : ℕ) :
    List α → Except ε (Kept β)
  | [] => .ok ⟨kept, total, false⟩
  | x :: xs => do
    let (y, size) ← measure x
    if kept ≠ [] ∧ budget < total + size then
      return ⟨kept, total, true⟩
    loop measure budget (kept ++ [y]) (total + size) xs

/-- The whole loop. -/
def run (measure : α → Except ε (β × ℕ)) (budget : ℤ) (xs : List α) : Except ε (Kept β) :=
  loop measure budget [] 0 xs

/-- The elements and sizes of a list that can be measured. -/
def Measured (measure : α → Except ε (β × ℕ)) (xs : List α) (ys : List (β × ℕ)) : Prop :=
  List.Forall₂ (fun x y => measure x = .ok y) xs ys

/-- The loop extends what is kept by the images of a prefix, and reports a cut exactly when the
prefix is not the whole list. -/
theorem loop_eq_ok {kept : List β} {total : ℕ} {xs : List α} {result : Kept β}
    (h : loop measure budget kept total xs = .ok result) :
    ∃ pre rest ys, xs = pre ++ rest ∧ Measured measure pre ys ∧
      result.kept = kept ++ ys.map Prod.fst ∧ result.total = total + (ys.map Prod.snd).sum ∧
      (result.cut = true ↔ rest ≠ []) ∧ (kept = [] → xs ≠ [] → pre ≠ []) := by
  induction xs generalizing kept total with
  | nil =>
    obtain rfl : Kept.mk kept total false = result := by simpa [loop] using h
    exact ⟨[], [], [], rfl, .nil, by simp, by simp, by simp, by simp⟩
  | cons x xs ih =>
    rw [loop] at h
    obtain ⟨⟨y, size⟩, hmeasure, h⟩ := bind_eq_ok.mp h
    by_cases hstop : kept ≠ [] ∧ budget < total + size
    · obtain rfl : Kept.mk kept total true = result := by
        simpa [hstop, pure, Except.pure] using h
      exact ⟨[], x :: xs, [], rfl, .nil, by simp, by simp, by simp,
        fun hkept => absurd hkept hstop.1⟩
    · simp only [hstop, if_false] at h
      obtain ⟨pre, rest, ys, rfl, hys, hkept, htotal, hcut, -⟩ := ih h
      refine ⟨x :: pre, rest, (y, size) :: ys, rfl, .cons hmeasure hys, ?_, ?_, hcut, by simp⟩
      · simp [hkept]
      · simp only [htotal, List.map_cons, List.sum_cons]
        omega

/-- The loop raises only when an element cannot be measured. -/
theorem loop_returns {kept : List β} {total : ℕ} {xs : List α}
    (h : ∀ x ∈ xs, ∃ y, measure x = .ok y) :
    ∃ result, loop measure budget kept total xs = .ok result := by
  induction xs generalizing kept total with
  | nil => exact ⟨_, rfl⟩
  | cons x xs ih =>
    obtain ⟨⟨y, size⟩, hmeasure⟩ := h x (by simp)
    rw [loop, hmeasure]
    by_cases hstop : kept ≠ [] ∧ budget < total + size
    · exact ⟨⟨kept, total, true⟩, by simp [bind, Except.bind, hstop, pure, Except.pure]⟩
    · obtain ⟨result, hrest⟩ : ∃ result,
          loop measure budget (kept ++ [y]) (total + size) xs = .ok result :=
        ih fun x' hx' => h x' (by simp [hx'])
      exact ⟨result, by simpa [bind, Except.bind, hstop] using hrest⟩

/-! ## Which prefix is kept -/

/-- The size of an element; one that cannot be measured counts nothing. -/
def sizeOf (measure : α → Except ε (β × ℕ)) (x : α) : ℕ :=
  match measure x with
  | .ok (_, size) => size
  | .error _ => 0

theorem sizeOf_of_ok {x : α} {y : β} {size : ℕ} (h : measure x = .ok (y, size)) :
    sizeOf measure x = size := by
  unfold sizeOf
  rw [h]

/-- A list of at most one element, or one whose sizes fit the budget. -/
def Admissible (measure : α → Except ε (β × ℕ)) (budget : ℤ) (pre : List α) : Prop :=
  pre.length ≤ 1 ∨ ((pre.map (sizeOf measure)).sum : ℤ) ≤ budget

instance (measure : α → Except ε (β × ℕ)) (budget : ℤ) (pre : List α) :
    Decidable (Admissible measure budget pre) := by
  unfold Admissible
  infer_instance

/-- The loop keeps the next `n + 1` elements exactly when they fit the rest of the budget, or when
there is one and it is the first. -/
theorem loop_keeps_iff {kept : List β} {total : ℕ} {xs : List α} {result : Kept β}
    (h : loop measure budget kept total xs = .ok result) {n : ℕ} (hn : n < xs.length) :
    kept.length + (n + 1) ≤ result.kept.length ↔ (kept = [] ∧ n = 0) ∨
      (total : ℤ) + ((xs.take (n + 1)).map (sizeOf measure)).sum ≤ budget := by
  induction xs generalizing kept total n with
  | nil => simp at hn
  | cons x xs ih =>
    rw [loop] at h
    obtain ⟨⟨y, size⟩, hmeasure, h⟩ := bind_eq_ok.mp h
    have hsum : ((x :: xs).take (n + 1)).map (sizeOf measure) =
        size :: (xs.take n).map (sizeOf measure) := by
      rw [List.take_succ_cons, List.map_cons, sizeOf_of_ok hmeasure]
    rw [hsum, List.sum_cons]
    by_cases hstop : kept ≠ [] ∧ budget < total + size
    · obtain rfl : Kept.mk kept total true = result := by
        simpa [hstop, pure, Except.pure] using h
      obtain ⟨hne, hover⟩ := hstop
      simp only [hne, false_and, false_or, Int.natCast_add]
      omega
    · simp only [hstop, if_false] at h
      rcases Nat.eq_zero_or_pos n with rfl | hpos
      · obtain ⟨pre, rest, ys, -, -, hkept, -, -, -⟩ := loop_eq_ok h
        have hlong : kept.length + (0 + 1) ≤ result.kept.length := by
          rw [hkept, List.length_append, List.length_append, List.length_singleton]
          omega
        refine ⟨fun _ => ?_, fun _ => hlong⟩
        rcases List.eq_nil_or_concat' kept with hnil | ⟨front, last, hkept⟩
        · exact Or.inl ⟨hnil, rfl⟩
        · have hne : kept ≠ [] := by
            rw [hkept]
            exact List.append_ne_nil_of_right_ne_nil _ (List.cons_ne_nil _ _)
          have hover : ¬budget < total + size := fun hover => hstop ⟨hne, hover⟩
          exact Or.inr (by simpa using hover)
      · obtain ⟨m, rfl⟩ : ∃ m, n = m + 1 := ⟨n - 1, by omega⟩
        have hrest := ih h (n := m) (by simpa using hn)
        rw [List.length_append, List.length_singleton] at hrest
        have hone : kept.length + (m + 1 + 1) = kept.length + 1 + (m + 1) := by omega
        rw [hone, hrest]
        simp only [List.append_eq_nil_iff, List.cons_ne_self, and_false, false_and, false_or,
          Nat.succ_ne_zero, Int.natCast_add]
        omega

/-- The whole loop keeps a prefix exactly when it is admissible. -/
theorem run_keeps_iff {xs : List α} {result : Kept β} (h : run measure budget xs = .ok result)
    {n : ℕ} (hn : n ≤ xs.length) :
    n ≤ result.kept.length ↔ Admissible measure budget (xs.take n) := by
  unfold Admissible
  rw [List.length_take, Nat.min_eq_left hn]
  cases n with
  | zero => simp
  | succ n =>
    have hkeeps := loop_keeps_iff h hn
    simp only [List.length_nil, Nat.zero_add, Int.natCast_zero, Int.zero_add, true_and] at hkeeps
    rw [hkeeps]
    have hone : n + 1 ≤ 1 ↔ n = 0 := by omega
    rw [hone]

theorem sum_sizeOf {xs : List α} {ys : List (β × ℕ)} (h : Measured measure xs ys) :
    (xs.map (sizeOf measure)).sum = (ys.map Prod.snd).sum := by
  induction h with
  | nil => rfl
  | cons hmeasure hrest ih => simp only [List.map_cons, List.sum_cons, ih, sizeOf_of_ok hmeasure]

/-- What is kept is a prefix of the list, and the total is the sum of its sizes. -/
theorem run_total_eq {xs : List α} {result : Kept β} (h : run measure budget xs = .ok result) :
    result.kept.length ≤ xs.length ∧
      result.total = ((xs.take result.kept.length).map (sizeOf measure)).sum := by
  obtain ⟨pre, rest, ys, rfl, hmeasured, hkept, htotal, -, -⟩ := loop_eq_ok h
  have hlength : result.kept.length = pre.length := by
    rw [hkept, List.nil_append, List.length_map]
    exact hmeasured.length_eq.symm
  rw [hlength, List.take_left, sum_sizeOf hmeasured, htotal, Nat.zero_add, List.length_append]
  exact ⟨Nat.le_add_right _ _, rfl⟩

/-- The total is within a bound when every admissible prefix is. -/
theorem run_total_le_iff {xs : List α} {result : Kept β} (h : run measure budget xs = .ok result)
    (bound : ℕ) :
    result.total ≤ bound ↔ ∀ n ≤ xs.length, Admissible measure budget (xs.take n) →
      ((xs.take n).map (sizeOf measure)).sum ≤ bound := by
  obtain ⟨hlength, htotal⟩ := run_total_eq h
  constructor
  · intro hbound n hn hadmissible
    have hkept : n ≤ result.kept.length := (run_keeps_iff h hn).mpr hadmissible
    have hprefix : (xs.take n).map (sizeOf measure) <+:
        (xs.take result.kept.length).map (sizeOf measure) :=
      (List.take_prefix_take_left hkept).map _
    obtain ⟨rest, hrest⟩ := hprefix
    rw [htotal, ← hrest, List.sum_append] at hbound
    exact Nat.le_trans (Nat.le_add_right _ _) hbound
  · intro hall
    rw [htotal]
    exact hall _ hlength ((run_keeps_iff h hlength).mp (Nat.le_refl _))

/-- When nothing is empty, there are no more elements than the total. -/
theorem length_kept_le_total {xs : List α} {result : Kept β}
    (h : run measure budget xs = .ok result)
    (hpos : ∀ x y size, measure x = .ok (y, size) → 0 < size) :
    result.kept.length ≤ result.total := by
  obtain ⟨pre, rest, ys, -, hmeasured, hkept, htotal, -, -⟩ := loop_eq_ok h
  rw [hkept, htotal, List.nil_append, List.length_map, Nat.zero_add]
  clear hkept htotal
  induction hmeasured with
  | nil => exact Nat.le_refl _
  | cons hmeasure hrest ih =>
    have hsize := hpos _ _ _ hmeasure
    rw [List.length_cons, List.map_cons, List.sum_cons]
    omega

/-- Two elements that are kept fit the budget. -/
theorem run_total_le {xs : List α} {result : Kept β} (h : run measure budget xs = .ok result)
    (htwo : 2 ≤ result.kept.length) : (result.total : ℤ) ≤ budget := by
  obtain ⟨hlength, htotal⟩ := run_total_eq h
  have hbudget := ((run_keeps_iff h hlength).mp (Nat.le_refl _)).resolve_left (by
    rw [List.length_take]
    omega)
  rw [htotal]
  exact hbudget

end GreedyPrefix
