import McpSql.Foundations.Effect

/-!
# Values that are computed once and kept

A program that looks into a slot of the state first, and computes the value and keeps it when the
slot is empty.  An exception is not kept.  `Ensures.memo` is its rule: what the slot may hold and
what the computation comes to satisfy the same condition.
-/

namespace Memo

open Effect

variable {ε σ α β : Type}

/-- A place in the state that holds a value or nothing. -/
structure Slot (σ α : Type) where
  get : σ → Option α
  set : σ → α → σ

/-- What the slot holds, or else what the program returns, which the slot then holds. -/
def memo (slot : Slot σ α) (x : EStateM ε σ α) : EStateM ε σ α := fun s =>
  match slot.get s with
  | some a => .ok a s
  | none =>
    match x.run s with
    | .ok a t => .ok a (slot.set t a)
    | .error e t => .error e t

theorem run_memo (slot : Slot σ α) (x : EStateM ε σ α) (s : σ) :
    (memo slot x).run s =
      match slot.get s with
      | some a => .ok a s
      | none =>
        match x.run s with
        | .ok a t => .ok a (slot.set t a)
        | .error e t => .error e t := rfl

/-- A program keeps `P`, and what it returns or raises satisfies `Q`. -/
def Ensures (P : σ → Prop) (Q : Except ε α → Prop) (x : EStateM ε σ α) : Prop :=
  ∀ s, P s → P (finalState (x.run s)) ∧ Q (outcome (x.run s))

section Ensures

variable {P : σ → Prop} {Q : Except ε α → Prop} {R : Except ε β → Prop}

/-- What is read from the state alone. -/
theorem Ensures.read {g : σ → Except ε α} (h : ∀ s, P s → Q (g s)) :
    Ensures P Q (MonadState.get >>= fun s => call (g s)) := by
  intro s hs
  have hrun : (MonadState.get >>= fun s => call (g s) : EStateM ε σ α).run s =
      (call (g s)).run s := rfl
  rw [hrun]
  have hread := h s hs
  cases hg : g s with
  | ok a =>
    rw [hg] at hread
    simpa [hg] using And.intro hs hread
  | error e =>
    rw [hg] at hread
    simpa [hg] using And.intro hs hread

theorem Ensures.raise {e : ε} (h : Q (.error e)) :
    Ensures P Q (Effect.raise e : EStateM ε σ α) := fun _ hs => ⟨hs, h⟩

theorem Ensures.bind {x : EStateM ε σ α} {f : α → EStateM ε σ β} (hx : Ensures P Q x)
    (hf : ∀ a, Q (.ok a) → Ensures P R (f a)) (herror : ∀ e, Q (.error e) → R (.error e)) :
    Ensures P R (x >>= f) := by
  intro s hs
  obtain ⟨hkept, hanswer⟩ := hx s hs
  rw [EStateM.run_bind]
  cases hrun : x.run s with
  | ok a t =>
    rw [hrun] at hkept hanswer
    exact hf a hanswer t hkept
  | error e t =>
    rw [hrun] at hkept hanswer
    exact ⟨hkept, herror e hanswer⟩

/-- A kept value was computed under the same condition. -/
theorem Ensures.memo {slot : Slot σ α} {x : EStateM ε σ α}
    (hslot : ∀ s a, P s → slot.get s = some a → Q (.ok a))
    (hset : ∀ s a, P s → Q (.ok a) → P (slot.set s a)) (hx : Ensures P Q x) :
    Ensures P Q (Memo.memo slot x) := by
  intro s hs
  rw [run_memo]
  cases hget : slot.get s with
  | some a => exact ⟨hs, hslot s a hs hget⟩
  | none =>
    obtain ⟨hkept, hanswer⟩ := hx s hs
    cases hrun : x.run s with
    | ok a t =>
      rw [hrun] at hkept hanswer
      exact ⟨hset t a hkept hanswer, hanswer⟩
    | error e t =>
      rw [hrun] at hkept hanswer
      exact ⟨hkept, hanswer⟩

end Ensures

end Memo
