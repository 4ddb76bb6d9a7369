import McpSql.Foundations.Effect
import Mathlib.Data.List.Forall2
import Mathlib.Data.List.Nodup

/-!
# Loops over distinct keys

A comprehension `[f(x) for x in xs]` over a state of which each element touches the part under its own
key.  With distinct keys every element finds its part as the loop found it and leaves it as the loop
leaves it, so what one call does to its part is what the loop does to it: `each_of_mapM` for every
ending, `forall₂_of_mapM` for a loop that returns.
-/

namespace KeyedLoop

open Effect

variable {ε σ α β κ γ : Type}

/-- Each of the elements touches its own part of the state only. -/
def Local (view : σ → κ → γ) (key : α → κ) (f : α → EStateM ε σ β) (xs : List α) : Prop :=
  ∀ x ∈ xs, ∀ s k, k ≠ key x → view (finalState ((f x).run s)) k = view s k

variable {view : σ → κ → γ} {key : α → κ} {f : α → EStateM ε σ β}

theorem Local.tail {x : α} {xs : List α} (h : Local view key f (x :: xs)) : Local view key f xs :=
  fun y hy => h y (List.mem_cons_of_mem _ hy)

/-- A related list whose left elements satisfy more than the relation. -/
theorem forall₂_imp_of_mem {R S : α → β → Prop} {xs : List α} {ys : List β}
    (h : List.Forall₂ R xs ys) (himp : ∀ x ∈ xs, ∀ y, R x y → S x y) : List.Forall₂ S xs ys := by
  induction h with
  | nil => exact .nil
  | cons hxy hrest ih =>
    exact .cons (himp _ List.mem_cons_self _ hxy)
      (ih fun x hx => himp x (List.mem_cons_of_mem _ hx))

section Cons

variable {x : α} {xs : List α} {s t : σ}

theorem run_mapM_cons_ok {y : β} (h : (f x).run s = .ok y t) :
    ((x :: xs).mapM f).run s =
      match (xs.mapM f).run t with
      | .error e u => .error e u
      | .ok ys u => .ok (y :: ys) u := by
  rw [List.mapM_cons, EStateM.run_bind, h]
  simp only [EStateM.run_bind]
  cases (xs.mapM f).run t with
  | error e u => rfl
  | ok ys u => rfl

theorem run_mapM_cons_error {e : ε} (h : (f x).run s = .error e t) :
    ((x :: xs).mapM f).run s = .error e t := by
  rw [List.mapM_cons, EStateM.run_bind, h]

/-- A loop that returns is one call that returns and a loop that returns. -/
theorem calls_of_run_mapM_cons {ys : List β} (h : ((x :: xs).mapM f).run s = .ok ys t) :
    ∃ y u zs, (f x).run s = .ok y u ∧ (xs.mapM f).run u = .ok zs t ∧ ys = y :: zs := by
  rw [List.mapM_cons] at h
  obtain ⟨y, u, hrun, h⟩ := run_bind_eq_ok.mp h
  obtain ⟨zs, v, hruns, h⟩ := run_bind_eq_ok.mp h
  obtain ⟨rfl, rfl⟩ := EStateM.Result.ok.inj h
  exact ⟨y, u, zs, hrun, hruns, rfl⟩

theorem finalState_mapM_cons_ok {y : β} (h : (f x).run s = .ok y t) :
    finalState (((x :: xs).mapM f).run s) = finalState ((xs.mapM f).run t) := by
  rw [run_mapM_cons_ok h]
  cases (xs.mapM f).run t with
  | error e u => rfl
  | ok ys u => rfl

theorem finalState_mapM_cons_error {e : ε} (h : (f x).run s = .error e t) :
    finalState (((x :: xs).mapM f).run s) = t := by
  rw [run_mapM_cons_error h, finalState_error]

end Cons

/-- The parts of other keys are left alone. -/
theorem view_mapM {xs : List α} (hlocal : Local view key f xs) {k : κ} (hk : k ∉ xs.map key)
    (s : σ) :
    view (finalState ((xs.mapM f).run s)) k = view s k := by
  induction xs generalizing s with
  | nil => rfl
  | cons x xs ih =>
    rw [List.map_cons, List.mem_cons, not_or] at hk
    have hfirst := hlocal x List.mem_cons_self s k hk.1
    cases hrun : (f x).run s with
    | error e t =>
      rw [hrun] at hfirst
      rw [finalState_mapM_cons_error hrun]
      exact hfirst
    | ok y t =>
      rw [hrun] at hfirst
      rw [finalState_mapM_cons_ok hrun]
      exact (ih hlocal.tail hk.2 t).trans hfirst

/-- What each call may do to its part, the loop may do to it, however it ends. -/
theorem each_of_mapM {xs : List α} (hlocal : Local view key f xs) {P : α → γ → γ → Prop}
    (hrefl : ∀ x g, P x g g) (hnodup : (xs.map key).Nodup)
    (hstep : ∀ x ∈ xs, ∀ s, P x (view s (key x)) (view (finalState ((f x).run s)) (key x)))
    (s : σ) : ∀ x ∈ xs, P x (view s (key x)) (view (finalState ((xs.mapM f).run s)) (key x)) := by
  induction xs generalizing s with
  | nil => exact fun x hx => absurd hx List.not_mem_nil
  | cons x xs ih =>
    rw [List.map_cons, List.nodup_cons] at hnodup
    have hfirst := hstep x List.mem_cons_self s
    have hne : ∀ y ∈ xs, key y ≠ key x := fun y hy heq =>
      hnodup.1 (heq ▸ List.mem_map_of_mem hy)
    have hframe : ∀ y ∈ xs, view (finalState ((f x).run s)) (key y) = view s (key y) :=
      fun y hy => hlocal x List.mem_cons_self s (key y) (hne y hy)
    intro y hy
    cases hrun : (f x).run s with
    | error e t =>
      rw [hrun] at hfirst hframe
      rw [finalState_mapM_cons_error hrun]
      rcases List.mem_cons.mp hy with rfl | hy
      · exact hfirst
      · have hsame := hframe y hy
        rw [finalState_error] at hsame
        rw [hsame]
        exact hrefl y _
    | ok z t =>
      rw [hrun] at hfirst hframe
      rw [finalState_mapM_cons_ok hrun]
      rcases List.mem_cons.mp hy with rfl | hy
      · rw [view_mapM hlocal.tail hnodup.1 t]
        exact hfirst
      · have hrest := ih hlocal.tail hnodup.2 (fun w hw => hstep w (List.mem_cons_of_mem _ hw)) t y hy
        have hsame := hframe y hy
        rw [finalState_ok] at hsame
        rw [hsame] at hrest
        exact hrest

/-- A loop that returns relates each element, its part before, what it returned and its part
after. -/
theorem forall₂_of_mapM {xs : List α} (hlocal : Local view key f xs) {P : α → γ → β → γ → Prop}
    (hnodup : (xs.map key).Nodup)
    (hstep : ∀ x ∈ xs, ∀ s y t, (f x).run s = .ok y t → P x (view s (key x)) y (view t (key x)))
    {s u : σ} {ys : List β} (h : (xs.mapM f).run s = .ok ys u) :
    List.Forall₂ (fun x y => P x (view s (key x)) y (view u (key x))) xs ys := by
  induction xs generalizing s ys with
  | nil =>
    obtain ⟨rfl, -⟩ := EStateM.Result.ok.inj h
    exact .nil
  | cons x xs ih =>
    rw [List.map_cons, List.nodup_cons] at hnodup
    obtain ⟨y, t, zs, hrun, hruns, rfl⟩ := calls_of_run_mapM_cons h
    refine .cons ?_ ?_
    · have hkeep := view_mapM hlocal.tail hnodup.1 t
      rw [hruns, finalState_ok] at hkeep
      rw [hkeep]
      exact hstep x List.mem_cons_self s y t hrun
    · have hrest := ih hlocal.tail hnodup.2 (fun z hz => hstep z (List.mem_cons_of_mem _ hz)) hruns
      refine forall₂_imp_of_mem hrest fun z hz w hzw => ?_
      have hne : key z ≠ key x := fun heq => hnodup.1 (heq ▸ List.mem_map_of_mem hz)
      have hsame := hlocal x List.mem_cons_self s (key z) hne
      rw [hrun, finalState_ok] at hsame
      rw [hsame] at hzw
      exact hzw

/-- A loop whose calls all return and leave the state alone returns and leaves it alone. -/
theorem run_mapM_of_stays {xs : List α} {ys : List β} {s : σ}
    (h : List.Forall₂ (fun x y => (f x).run s = .ok y s) xs ys) :
    (xs.mapM f).run s = .ok ys s := by
  induction h with
  | nil => rfl
  | cons hxy _ ih => rw [run_mapM_cons_ok hxy, ih]

/-- A loop whose calls all return returns. -/
theorem mapM_returns {xs : List α} (h : ∀ x ∈ xs, ∀ s, ∃ y t, (f x).run s = .ok y t) (s : σ) :
    ∃ ys t, (xs.mapM f).run s = .ok ys t := by
  induction xs generalizing s with
  | nil => exact ⟨[], s, rfl⟩
  | cons x xs ih =>
    obtain ⟨y, t, hrun⟩ := h x List.mem_cons_self s
    obtain ⟨ys, u, hruns⟩ := ih (fun z hz => h z (List.mem_cons_of_mem _ hz)) t
    exact ⟨y :: ys, u, by rw [run_mapM_cons_ok hrun, hruns]⟩

end KeyedLoop
