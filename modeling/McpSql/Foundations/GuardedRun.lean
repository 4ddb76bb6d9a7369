import Mathlib.Logic.Relation

/-!
# Runs of a transition system

A labelled transition system and the runs all of whose steps meet a condition on the state before
the step.  `invariant` is the rule by which what one such step preserves holds along every such
run.
-/

namespace GuardedRun

variable {σ α : Type}

/-- One step with some label that meets the guard. -/
def GuardedStep (step : σ → α → σ → Prop) (guard : σ → α → Prop) (s t : σ) : Prop :=
  ∃ a, guard s a ∧ step s a t

/-- A run all of whose steps meet the guard. -/
def Run (step : σ → α → σ → Prop) (guard : σ → α → Prop) : σ → σ → Prop :=
  Relation.ReflTransGen (GuardedStep step guard)

/-- A run without a condition on its steps. -/
def FreeRun (step : σ → α → σ → Prop) : σ → σ → Prop := Run step fun _ _ => True

/-- A state extended by one more step. -/
theorem Run.snoc {step : σ → α → σ → Prop} {guard : σ → α → Prop} {s t u : σ}
    (h : Run step guard s t) (a : α) (hg : guard t a) (hs : step t a u) : Run step guard s u :=
  Relation.ReflTransGen.tail h ⟨a, hg, hs⟩

/-- What holds at the start and is preserved by every guarded step holds along every run. -/
theorem invariant {step : σ → α → σ → Prop} {guard : σ → α → Prop} {P : σ → Prop} {s t : σ}
    (hrun : Run step guard s t) (hstart : P s)
    (hstep : ∀ s a t, P s → guard s a → step s a t → P t) : P t := by
  induction hrun with
  | refl => exact hstart
  | tail _ hlast ih =>
    obtain ⟨a, hguard, hstep'⟩ := hlast
    exact hstep _ a _ ih hguard hstep'

/-- A run that meets a guard meets every weaker one. -/
theorem Run.mono {step : σ → α → σ → Prop} {guard guard' : σ → α → Prop} {s t : σ}
    (h : Run step guard s t) (hguard : ∀ s a, guard s a → guard' s a) : Run step guard' s t :=
  invariant h .refl fun s a _ hrun hg hs => hrun.snoc a (hguard s a hg) hs

/-- A run that meets a guard is a run. -/
theorem Run.free {step : σ → α → σ → Prop} {guard : σ → α → Prop} {s t : σ}
    (h : Run step guard s t) : FreeRun step s t := h.mono fun _ _ _ => trivial

/-- What every guarded step preserves is known before each step of a run. -/
theorem Run.guarded {step : σ → α → σ → Prop} {guard : σ → α → Prop} {P : σ → Prop} {s t : σ}
    (h : Run step guard s t) (hstart : P s)
    (hstep : ∀ s a t, P s → guard s a → step s a t → P t) :
    Run step (fun s a => guard s a ∧ P s) s t := by
  have hboth : Run step (fun s a => guard s a ∧ P s) s t ∧ P t := by
    refine invariant (P := fun t => Run step (fun s a => guard s a ∧ P s) s t ∧ P t) h
      ⟨.refl, hstart⟩ ?_
    rintro u a v ⟨hrun, hu⟩ hg hs
    exact ⟨hrun.snoc a ⟨hg, hu⟩ hs, hstep u a v hu hg hs⟩
  exact hboth.1

/-- A map that takes the guarded steps of one system to guarded steps of another takes its runs to
runs. -/
theorem Run.refine {τ β : Type} {step : σ → α → σ → Prop} {guard : σ → α → Prop}
    {step' : τ → β → τ → Prop} {guard' : τ → β → Prop} {s t : σ} (h : Run step guard s t)
    (abstraction : σ → τ) (hstep : ∀ s a t, guard s a → step s a t →
      ∃ b, guard' (abstraction s) b ∧ step' (abstraction s) b (abstraction t)) :
    Run step' guard' (abstraction s) (abstraction t) := by
  refine invariant (P := fun t => Run step' guard' (abstraction s) (abstraction t)) h .refl ?_
  intro u a v hrun hg hs
  obtain ⟨b, hg', hs'⟩ := hstep u a v hg hs
  exact hrun.snoc b hg' hs'

/-! ## Runs that are computed -/

/-- Follow the labels with an executable step, as long as the guard allows it. -/
def replay (step : σ → α → Option σ) (guard : σ → α → Bool) : List α → σ → Option σ
  | [], s => some s
  | a :: rest, s => if guard s a then (step s a).bind (replay step guard rest) else none

/-- A replay is a run. -/
theorem run_of_replay {step : σ → α → Option σ} {guard : σ → α → Bool} {labels : List α} {s t : σ}
    (h : replay step guard labels s = some t) :
    Run (fun s a t => step s a = some t) (fun s a => guard s a = true) s t := by
  induction labels generalizing s with
  | nil =>
    obtain rfl : s = t := by simpa [replay] using h
    exact .refl
  | cons a rest ih =>
    rw [replay] at h
    by_cases hguard : guard s a = true
    · rw [if_pos hguard] at h
      obtain ⟨u, hstep, hrest⟩ := Option.bind_eq_some_iff.mp h
      exact .head ⟨a, hguard, hstep⟩ (ih hrest)
    · rw [if_neg hguard] at h
      exact absurd h (by simp)

/-- Where each step leaves old entries and such of a kind it makes, every entry is old or was made by
a step. -/
theorem mem_foldl {ρ : Type} {next : σ → α → σ} {entries : σ → List ρ} {made : α → ρ → Prop}
    (h : ∀ s a r, r ∈ entries (next s a) → r ∈ entries s ∨ made a r) {history : List α} {s : σ}
    {r : ρ} (hr : r ∈ entries (history.foldl next s)) :
    r ∈ entries s ∨ ∃ a ∈ history, made a r := by
  induction history generalizing s with
  | nil => exact Or.inl hr
  | cons a rest ih =>
    rcases ih hr with hnext | ⟨b, hb, hmade⟩
    · rcases h s a r hnext with hold | hnew
      · exact Or.inl hold
      · exact Or.inr ⟨a, List.mem_cons_self, hnew⟩
    · exact Or.inr ⟨b, List.mem_cons_of_mem a hb, hmade⟩

end GuardedRun
