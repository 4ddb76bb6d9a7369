import McpSql.Foundations.Effect
import McpSql.Foundations.Raising

/-!
# Scripted computations

A computation that only appends to its state, always the same entries in the same order, and stops
where it raises.  What it returns or raises does not depend on the state, so that it is described by
an outcome and the script it follows.
-/

namespace Effect

open Raising

variable {ε τ α β : Type}

/-- The computation comes to `r`; it has written a prefix of the script, and the whole script when it
returns. -/
def Scripted (x : EStateM ε (List τ) α) (r : Except ε α) (script : List τ) : Prop :=
  ∀ written, ∃ pre, x.run written = resultOf r (written ++ pre) ∧ pre <+: script ∧
    ((∃ a, r = .ok a) → pre = script)

section Scripted

variable {x : EStateM ε (List τ) α} {r : Except ε α} {script : List τ}

theorem Scripted.pure (a : α) : Scripted (Pure.pure a : EStateM ε (List τ) α) (.ok a) [] :=
  fun written => ⟨[], by simp, List.nil_prefix, fun _ => rfl⟩

theorem Scripted.call (r : Except ε α) : Scripted (call r : EStateM ε (List τ) α) r [] := by
  intro written
  refine ⟨[], ?_, List.nil_prefix, fun _ => rfl⟩
  rw [List.append_nil]
  cases r with
  | ok a => rfl
  | error e => rfl

theorem Scripted.raise (e : ε) : Scripted (raise e : EStateM ε (List τ) α) (.error e) [] :=
  fun written => ⟨[], by simp, List.nil_prefix, fun _ => rfl⟩

/-- One script after another, the second only when the first computation returns. -/
theorem Scripted.bind {f : α → EStateM ε (List τ) β} {g : α → Except ε β} {rest : List τ}
    (hx : Scripted x r script) (hf : ∀ a, Scripted (f a) (g a) rest) :
    Scripted (x >>= f) (r >>= g) (script ++ rest) := by
  intro written
  obtain ⟨pre, hrun, hpre, hwhole⟩ := hx written
  cases r with
  | ok a =>
    obtain rfl : pre = script := hwhole ⟨a, rfl⟩
    obtain ⟨more, hmore, hprefix, hrest⟩ := hf a (written ++ pre)
    refine ⟨pre ++ more, ?_, (List.prefix_append_right_inj pre).mpr hprefix, fun hok => ?_⟩
    · rw [EStateM.run_bind, hrun, ← List.append_assoc]
      exact hmore
    · rw [hrest hok]
  | error e =>
    refine ⟨pre, ?_, hpre.trans (List.prefix_append _ _), fun ⟨b, hb⟩ => ?_⟩
    · rw [EStateM.run_bind, hrun]
      rfl
    · exact absurd hb (by simp [Bind.bind, Except.bind])

/-- An answer that is known writes nothing. -/
theorem Scripted.call_bind (r : Except ε α) {f : α → EStateM ε (List τ) β} {g : α → Except ε β}
    (hf : ∀ a, Scripted (f a) (g a) script) : Scripted (Effect.call r >>= f) (r >>= g) script :=
  (Scripted.call r).bind hf

theorem Scripted.bind_call (hx : Scripted x r script) (f : α → Except ε β) :
    Scripted (x >>= fun a => Effect.call (f a)) (r >>= f) script := by
  have hboth := hx.bind fun a => Scripted.call (f a)
  rwa [List.append_nil] at hboth

theorem Scripted.map (f : α → β) (hx : Scripted x r script) :
    Scripted (f <$> x) (f <$> r) script := by
  intro written
  obtain ⟨pre, hrun, hpre, hwhole⟩ := hx written
  refine ⟨pre, ?_, hpre, fun ⟨b, hb⟩ => hwhole ?_⟩
  · rw [run_map, hrun]
    cases r with
    | ok a => rfl
    | error e => rfl
  · cases r with
    | ok a => exact ⟨a, rfl⟩
    | error e => exact absurd hb (by simp)

theorem Scripted.forM {xs : List α} {f : α → EStateM ε (List τ) PUnit} {g : α → Except ε PUnit}
    {part : α → List τ} (h : ∀ x ∈ xs, Scripted (f x) (g x) (part x)) :
    Scripted (forM xs f) (forM xs g) (xs.flatMap part) := by
  induction xs with
  | nil => exact .pure _
  | cons x rest ih =>
    rw [List.forM_cons, List.forM_cons, List.flatMap_cons]
    exact .bind (h x List.mem_cons_self) fun _ => ih fun y hy => h y (List.mem_cons_of_mem _ hy)

theorem Scripted.mapM {xs : List α} {f : α → EStateM ε (List τ) β} {g : α → Except ε β}
    {part : α → List τ} (h : ∀ x ∈ xs, Scripted (f x) (g x) (part x)) :
    Scripted (xs.mapM f) (xs.mapM g) (xs.flatMap part) := by
  induction xs with
  | nil => exact .pure _
  | cons x rest ih =>
    rw [List.mapM_cons, List.mapM_cons, List.flatMap_cons]
    simp only [bind_pure_comp]
    exact .bind (h x List.mem_cons_self) fun y =>
      .map (y :: ·) (ih fun z hz => h z (List.mem_cons_of_mem _ hz))

/-- What a scripted computation does from an empty state. -/
theorem Scripted.run_nil (h : Scripted x r script) : ∃ pre, x.run [] = resultOf r pre ∧
    pre <+: script ∧ ((∃ a, r = .ok a) → pre = script) := by
  obtain ⟨pre, hrun, hrest⟩ := h []
  exact ⟨pre, hrun, hrest⟩

end Scripted

end Effect
