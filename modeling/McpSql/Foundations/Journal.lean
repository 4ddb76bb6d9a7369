import McpSql.Foundations.GuardedRun

/-!
# Journals along runs

A transition system whose steps only append to a journal.  What a run has written is what it
appended, and it is written by the steps of the run: an entry that each entrance into a region
writes is there after every run that has entered it, and every entry goes back to the step that
wrote it.
-/

namespace GuardedRun

variable {σ α ρ : Type}

/-- What the journal holds at `t` beyond what it held at `s`. -/
def written (journal : σ → List ρ) (s t : σ) : List ρ := (journal t).drop (journal s).length

theorem written_eq {journal : σ → List ρ} {s t : σ} {new : List ρ}
    (h : journal t = journal s ++ new) : written journal s t = new := by
  unfold written
  rw [h, List.drop_left]

theorem written_self (journal : σ → List ρ) (s : σ) : written journal s s = [] :=
  written_eq (List.append_nil _).symm

/-- Every step leaves what is in the journal. -/
def Appends (step : σ → α → σ → Prop) (journal : σ → List ρ) : Prop :=
  ∀ s a t, step s a t → journal s <+: journal t

section Appends

variable {step : σ → α → σ → Prop} {guard : σ → α → Prop} {journal : σ → List ρ}
  (happends : Appends step journal)

include happends

/-- A run leaves what is in the journal. -/
theorem isPrefix_of_run {s t : σ} (h : Run step guard s t) : journal s <+: journal t := by
  refine invariant (P := fun t => journal s <+: journal t) h (List.prefix_refl _) ?_
  intro u a v hprefix _ hstep
  exact hprefix.trans (happends u a v hstep)

/-- The journal after a run is the journal before it and what the run has written. -/
theorem append_written {s t : σ} (h : Run step guard s t) :
    journal s ++ written journal s t = journal t := by
  obtain ⟨new, hnew⟩ := isPrefix_of_run happends h
  rw [written_eq hnew.symm]
  exact hnew

/-- What a run and one more step have written. -/
theorem written_snoc {s t u : σ} {a : α} (h : Run step guard s t) (hstep : step t a u) :
    written journal s u = written journal s t ++ written journal t u := by
  obtain ⟨last, hlast⟩ := happends t a u hstep
  rw [written_eq hlast.symm]
  apply written_eq
  rw [← hlast, ← append_written happends h, List.append_assoc]

/-- When every step that enters a region writes an entry of a kind, every run that has entered the
region has written one. -/
theorem exists_entry_of_entered {inside : σ → Prop} {kind : ρ → Prop}
    (henter : ∀ s a t, guard s a → step s a t → ¬inside s → inside t →
      ∃ r ∈ written journal s t, kind r)
    {s t : σ} (h : Run step guard s t) (hs : ¬inside s) :
    inside t → ∃ r ∈ written journal s t, kind r := by
  induction h with
  | refl => exact fun ht => absurd ht hs
  | @tail u v hrun hlast ih =>
    intro hv
    obtain ⟨a, hguard, hstep⟩ := hlast
    rw [written_snoc happends hrun hstep]
    by_cases hu : inside u
    · obtain ⟨r, hr, hkind⟩ := ih hu
      exact ⟨r, List.mem_append_left _ hr, hkind⟩
    · obtain ⟨r, hr, hkind⟩ := henter u a v hguard hstep hu hv
      exact ⟨r, List.mem_append_right _ hr, hkind⟩

/-- Every entry a run has written was written by one of its steps. -/
theorem exists_step_of_entry {s t : σ} (h : Run step guard s t) {r : ρ}
    (hr : r ∈ written journal s t) :
    ∃ u a v, Run step guard s u ∧ guard u a ∧ step u a v ∧ Run step guard v t ∧
      r ∈ written journal u v := by
  induction h with
  | refl =>
    rw [written_self] at hr
    exact absurd hr List.not_mem_nil
  | @tail u v hrun hlast ih =>
    have hedge : GuardedStep step guard u v := hlast
    obtain ⟨a, hguard, hstep⟩ := hlast
    rw [written_snoc happends hrun hstep] at hr
    rcases List.mem_append.mp hr with hearlier | hnow
    · obtain ⟨u', a', v', hbefore, hguard', hstep', hafter, hmem⟩ := ih hearlier
      exact ⟨u', a', v', hbefore, hguard', hstep', hafter.tail hedge, hmem⟩
    · exact ⟨u, a, v, hrun, hguard, hstep, .refl, hnow⟩

end Appends

/-! ## Journals of computed runs -/

/-- The states a computed run goes through, each with the label of the step taken there. -/
def stages (next : σ → α → σ) : List α → σ → List (σ × α)
  | [], _ => []
  | a :: rest, s => (s, a) :: stages next rest (next s a)

/-- A journal to which each step appends its contribution holds the contributions of all stages, in
order. -/
theorem journal_foldl {next : σ → α → σ} {journal : σ → List ρ} {entries : σ → α → List ρ}
    (h : ∀ s a, journal (next s a) = journal s ++ entries s a) (history : List α) (s : σ) :
    journal (history.foldl next s) =
      journal s ++ (stages next history s).flatMap fun stage => entries stage.1 stage.2 := by
  induction history generalizing s with
  | nil => simp [stages]
  | cons a rest ih =>
    rw [List.foldl_cons, ih, h, List.append_assoc]
    rfl

end GuardedRun
