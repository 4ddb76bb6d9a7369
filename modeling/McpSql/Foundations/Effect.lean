import Mathlib.Data.List.Basic

/-!
# Programs with a state and exceptions

`EStateM ε σ` runs a program on a state that survives an exception.  This module adds the constructs
the model uses beside `do` notation: the outcome of an outside call, a handler for the exceptions a
predicate selects, and an attempt that hands its outcome on.  Each comes with the rule that says how
it runs.
-/

namespace Effect

variable {ε σ τ α β : Type}

/-- The state a run ends in. -/
def finalState : EStateM.Result ε σ α → σ
  | .ok _ s => s
  | .error _ s => s

/-- What a run returns or raises. -/
def outcome : EStateM.Result ε σ α → Except ε α
  | .ok a _ => .ok a
  | .error e _ => .error e

@[simp] theorem finalState_ok (a : α) (s : σ) :
    finalState (.ok a s : EStateM.Result ε σ α) = s := rfl

@[simp] theorem finalState_error (e : ε) (s : σ) :
    finalState (.error e s : EStateM.Result ε σ α) = s := rfl

@[simp] theorem outcome_ok (a : α) (s : σ) :
    outcome (.ok a s : EStateM.Result ε σ α) = .ok a := rfl

@[simp] theorem outcome_error (e : ε) (s : σ) :
    outcome (.error e s : EStateM.Result ε σ α) = .error e := rfl

/-- The result of a run from its outcome and its final state. -/
def resultOf (r : Except ε α) (s : σ) : EStateM.Result ε σ α :=
  match r with
  | .ok a => .ok a s
  | .error e => .error e s

@[simp] theorem resultOf_ok (a : α) (s : σ) : resultOf (.ok a : Except ε α) s = .ok a s := rfl

@[simp] theorem resultOf_error (e : ε) (s : σ) :
    resultOf (.error e : Except ε α) s = .error e s := rfl

theorem resultOf_eq_ok_iff {r : Except ε α} {s t : σ} {a : α} :
    resultOf r s = .ok a t ↔ r = .ok a ∧ s = t := by
  cases r with
  | ok b => simp
  | error e => simp

theorem outcome_resultOf (r : Except ε α) (s : σ) : outcome (resultOf r s) = r := by
  cases r with
  | ok a => rfl
  | error e => rfl

theorem finalState_resultOf (r : Except ε α) (s : σ) : finalState (resultOf r s) = s := by
  cases r with
  | ok a => rfl
  | error e => rfl

@[simp] theorem run_map (f : α → β) (x : EStateM ε σ α) (s : σ) :
    (f <$> x).run s =
      match x.run s with
      | .ok a s' => .ok (f a) s'
      | .error e s' => .error e s' := rfl

theorem run_discard (x : EStateM ε σ α) (s : σ) :
    (discard x : EStateM ε σ PUnit).run s =
      match x.run s with
      | .ok _ s' => .ok PUnit.unit s'
      | .error e s' => .error e s' := rfl

/-- Dropping what a program returns leaves its effects. -/
theorem finalState_discard (x : EStateM ε σ α) (s : σ) :
    finalState ((discard x : EStateM ε σ PUnit).run s) = finalState (x.run s) := by
  rw [run_discard]
  cases x.run s with
  | ok a s' => rfl
  | error e s' => rfl

/-- A sequence returns when both parts do. -/
theorem run_bind_eq_ok {x : EStateM ε σ α} {f : α → EStateM ε σ β} {s t : σ} {b : β} :
    (x >>= f).run s = .ok b t ↔ ∃ a u, x.run s = .ok a u ∧ (f a).run u = .ok b t := by
  rw [EStateM.run_bind]
  cases x.run s with
  | ok a u => simp
  | error e u => simp

/-- An outside call with a given outcome and no effect on the state. -/
def call (r : Except ε α) : EStateM ε σ α := fun s =>
  match r with
  | .ok a => .ok a s
  | .error e => .error e s

@[simp] theorem run_call_ok (a : α) (s : σ) :
    (call (.ok a) : EStateM ε σ α).run s = .ok a s := rfl

@[simp] theorem run_call_error (e : ε) (s : σ) :
    (call (.error e) : EStateM ε σ α).run s = .error e s := rfl

/-- An outside call that returns. -/
theorem run_call_eq_ok {r : Except ε α} {a : α} {s t : σ} :
    (call r : EStateM ε σ α).run s = .ok a t ↔ r = .ok a ∧ s = t := by
  cases r with
  | ok b => simp
  | error e => simp

/-- Raise an exception. -/
def raise (e : ε) : EStateM ε σ α := fun s => .error e s

@[simp] theorem run_raise (e : ε) (s : σ) : (raise e : EStateM ε σ α).run s = .error e s := rfl

/-- Run `x` and handle the exceptions `p` selects, in the state `x` left behind. -/
def catching (p : ε → Bool) (x : EStateM ε σ α) (handler : ε → EStateM ε σ α) :
    EStateM ε σ α := fun s =>
  match x.run s with
  | .ok a s' => .ok a s'
  | .error e s' => if p e then (handler e).run s' else .error e s'

@[simp] theorem run_catching (p : ε → Bool) (x : EStateM ε σ α)
    (handler : ε → EStateM ε σ α) (s : σ) :
    (catching p x handler).run s =
      match x.run s with
      | .ok a s' => .ok a s'
      | .error e s' => if p e then (handler e).run s' else .error e s' := rfl

/-- Run `x` and hand its outcome on. -/
def attempt (x : EStateM ε σ α) : EStateM ε σ (Except ε α) := fun s =>
  .ok (outcome (x.run s)) (finalState (x.run s))

@[simp] theorem run_attempt (x : EStateM ε σ α) (s : σ) :
    (attempt x).run s = .ok (outcome (x.run s)) (finalState (x.run s)) := rfl

/-- A computation with local variables, which are gone when it ends. -/
def withLocals (locals : τ) (x : EStateM ε (σ × τ) α) : EStateM ε σ α := fun s =>
  resultOf (outcome (x.run (s, locals))) (finalState (x.run (s, locals))).1

theorem run_withLocals {locals locals' : τ} {x : EStateM ε (σ × τ) α} {s t : σ} {r : Except ε α}
    (h : x.run (s, locals) = resultOf r (t, locals')) :
    (withLocals locals x).run s = resultOf r t := by
  change resultOf (outcome (x.run (s, locals))) (finalState (x.run (s, locals))).1 = _
  rw [h, outcome_resultOf, finalState_resultOf]

/-- Run `x` and then `cleanup`, whatever `x` comes to; an exception of `cleanup` replaces it. -/
def finallyDo (x : EStateM ε σ α) (cleanup : EStateM ε σ Unit) : EStateM ε σ α := fun s =>
  match cleanup.run (finalState (x.run s)) with
  | .ok _ t => resultOf (outcome (x.run s)) t
  | .error e t => .error e t

theorem run_finallyDo (x : EStateM ε σ α) (cleanup : EStateM ε σ Unit) (s : σ) :
    (finallyDo x cleanup).run s =
      match cleanup.run (finalState (x.run s)) with
      | .ok _ t => resultOf (outcome (x.run s)) t
      | .error e t => .error e t := rfl

/-- Run `x` and then commit; an exception of either undoes what `x` did, by `restore`, which is given
the state before and the state after. -/
def transaction (restore : σ → σ → σ) (commit : Except ε Unit) (x : EStateM ε σ α) :
    EStateM ε σ α := fun s =>
  match x.run s, commit with
  | .ok a t, .ok () => .ok a t
  | .ok _ t, .error e => .error e (restore s t)
  | .error e t, _ => .error e (restore s t)

theorem run_transaction (restore : σ → σ → σ) (commit : Except ε Unit) (x : EStateM ε σ α) (s : σ) :
    (transaction restore commit x).run s =
      match x.run s, commit with
      | .ok a t, .ok () => .ok a t
      | .ok _ t, .error e => .error e (restore s t)
      | .error e t, _ => .error e (restore s t) := rfl

/-- A body that returns and a commit that succeeds make a transaction that returns. -/
theorem run_transaction_ok {restore : σ → σ → σ} {commit : Except ε Unit} {x : EStateM ε σ α}
    {s t : σ} {a : α} (h : x.run s = .ok a t) (hcommit : commit = .ok ()) :
    (transaction restore commit x).run s = .ok a t := by
  rw [run_transaction, h, hcommit]

/-- A transaction that returns has done what its body does. -/
theorem run_of_run_transaction {restore : σ → σ → σ} {commit : Except ε Unit} {x : EStateM ε σ α}
    {s t : σ} {a : α} (h : (transaction restore commit x).run s = .ok a t) :
    x.run s = .ok a t := by
  rw [run_transaction] at h
  cases hx : x.run s with
  | ok b u =>
    rw [hx] at h
    cases hcommit : commit with
    | ok _ => simpa [hcommit] using h
    | error e => simp [hcommit] at h
  | error e u => simp [hx] at h

/-- A transaction that raises leaves a restored state behind. -/
theorem restored_of_run_transaction {restore : σ → σ → σ} {commit : Except ε Unit}
    {x : EStateM ε σ α} {s t : σ} {e : ε} (h : (transaction restore commit x).run s = .error e t) :
    t = restore s (finalState (x.run s)) := by
  rw [run_transaction] at h
  cases hx : x.run s with
  | ok b u =>
    rw [hx] at h
    cases hcommit : commit with
    | ok _ => simp [hcommit] at h
    | error e' =>
      simp only [hcommit, EStateM.Result.error.injEq] at h
      exact h.2.symm
  | error e' u =>
    simp only [hx, EStateM.Result.error.injEq] at h
    exact h.2.symm

theorem outcome_call_bind (r : Except ε α) (f : α → EStateM ε σ β) (s : σ) :
    outcome ((call r >>= f).run s) = r >>= fun a => outcome ((f a).run s) := by
  cases r with
  | ok a => rfl
  | error e => rfl

theorem outcome_attempt_bind (x : EStateM ε σ α) (f : Except ε α → Except ε β) (s : σ) :
    outcome ((attempt x >>= fun r => call (f r)).run s) = f (outcome (x.run s)) := by
  have hrun : (attempt x >>= fun r => call (f r)).run s =
      (call (f (outcome (x.run s)))).run (finalState (x.run s)) := rfl
  rw [hrun]
  cases f (outcome (x.run s)) with
  | ok b => rfl
  | error e => rfl

/-! ## What a program keeps -/

/-- Every run of `x` relates its first state to its last, whether it returns or raises. -/
def Keeps (R : σ → σ → Prop) (x : EStateM ε σ α) : Prop := ∀ s, R s (finalState (x.run s))

section Keeps

variable {R : σ → σ → Prop}

theorem Keeps.pure (hrefl : ∀ s, R s s) (a : α) : Keeps R (Pure.pure a : EStateM ε σ α) :=
  fun s => hrefl s

theorem Keeps.raise (hrefl : ∀ s, R s s) (e : ε) : Keeps R (raise e : EStateM ε σ α) :=
  fun s => hrefl s

theorem Keeps.call (hrefl : ∀ s, R s s) (r : Except ε α) : Keeps R (call r : EStateM ε σ α) := by
  intro s
  cases r with
  | ok a => exact hrefl s
  | error e => exact hrefl s

theorem Keeps.get (hrefl : ∀ s, R s s) : Keeps R (MonadState.get : EStateM ε σ σ) :=
  fun s => hrefl s

theorem Keeps.modify {f : σ → σ} (h : ∀ s, R s (f s)) :
    Keeps R (modify f : EStateM ε σ Unit) := fun s => h s

theorem Keeps.modifyGet {f : σ → α × σ} (h : ∀ s, R s (f s).2) :
    Keeps R (modifyGet f : EStateM ε σ α) := fun s => h s

theorem Keeps.bind (htrans : ∀ s t u, R s t → R t u → R s u) {x : EStateM ε σ α}
    {f : α → EStateM ε σ β} (hx : Keeps R x) (hf : ∀ a, Keeps R (f a)) : Keeps R (x >>= f) := by
  intro s
  have hfirst := hx s
  rw [EStateM.run_bind]
  cases hrun : x.run s with
  | ok a s' =>
    rw [hrun] at hfirst
    exact htrans _ _ _ hfirst (hf a s')
  | error e s' =>
    rw [hrun] at hfirst
    exact hfirst

/-- What leaves the state alone does not change the state a program leaves behind. -/
theorem finalState_bind_of_keeps {x : EStateM ε σ α} {f : α → EStateM ε σ β}
    (h : ∀ a, Keeps Eq (f a)) (s : σ) : finalState ((x >>= f).run s) = finalState (x.run s) := by
  rw [EStateM.run_bind]
  cases x.run s with
  | ok a s' => exact (h a s').symm
  | error e s' => rfl

theorem Keeps.map {x : EStateM ε σ α} (f : α → β) (hx : Keeps R x) : Keeps R (f <$> x) := by
  intro s
  have hfirst := hx s
  rw [run_map]
  cases hrun : x.run s with
  | ok a s' =>
    rw [hrun] at hfirst
    exact hfirst
  | error e s' =>
    rw [hrun] at hfirst
    exact hfirst

theorem Keeps.forM (hrefl : ∀ s, R s s) (htrans : ∀ s t u, R s t → R t u → R s u) {xs : List α}
    {f : α → EStateM ε σ PUnit} (h : ∀ x ∈ xs, Keeps R (f x)) : Keeps R (forM xs f) := by
  induction xs with
  | nil => exact .pure hrefl _
  | cons x xs ih =>
    rw [List.forM_cons]
    exact .bind htrans (h x List.mem_cons_self) fun _ =>
      ih fun y hy => h y (List.mem_cons_of_mem _ hy)

theorem Keeps.mapM (hrefl : ∀ s, R s s) (htrans : ∀ s t u, R s t → R t u → R s u) {xs : List α}
    {f : α → EStateM ε σ β} (h : ∀ x ∈ xs, Keeps R (f x)) : Keeps R (xs.mapM f) := by
  induction xs with
  | nil => exact .pure hrefl _
  | cons x xs ih =>
    rw [List.mapM_cons]
    refine .bind htrans (h x List.mem_cons_self) fun y => ?_
    refine .bind htrans (ih fun z hz => h z (List.mem_cons_of_mem _ hz)) fun ys => ?_
    exact .pure hrefl _

theorem Keeps.transaction {restore : σ → σ → σ} (hrestore : ∀ s t, R s t → R s (restore s t))
    {x : EStateM ε σ α} (hx : Keeps R x) (commit : Except ε Unit) :
    Keeps R (transaction restore commit x) := by
  intro s
  have hbody := hx s
  cases hrun : (Effect.transaction restore commit x).run s with
  | ok a t =>
    rw [run_of_run_transaction hrun] at hbody
    exact hbody
  | error e t =>
    rw [finalState_error, restored_of_run_transaction hrun]
    exact hrestore _ _ hbody

theorem Keeps.catching (htrans : ∀ s t u, R s t → R t u → R s u) {p : ε → Bool}
    {x : EStateM ε σ α} {handler : ε → EStateM ε σ α} (hx : Keeps R x)
    (hhandler : ∀ e, Keeps R (handler e)) : Keeps R (catching p x handler) := by
  intro s
  have hfirst := hx s
  rw [run_catching]
  cases hrun : x.run s with
  | ok a s' =>
    rw [hrun] at hfirst
    exact hfirst
  | error e s' =>
    rw [hrun] at hfirst
    by_cases hp : p e = true
    · simp only [hp, if_true]
      exact htrans _ _ _ hfirst (hhandler e s')
    · simp only [hp]
      exact hfirst

end Keeps

/-! ## What a program raises -/

/-- Every exception `x` raises satisfies `P`. -/
def RaisesOnly (P : ε → Prop) (x : EStateM ε σ α) : Prop :=
  ∀ s e, outcome (x.run s) = .error e → P e

section RaisesOnly

variable {P : ε → Prop}

theorem RaisesOnly.pure (a : α) : RaisesOnly P (Pure.pure a : EStateM ε σ α) := by
  intro s e h
  simp at h

theorem RaisesOnly.modify (f : σ → σ) : RaisesOnly P (modify f : EStateM ε σ Unit) := by
  intro s e h
  simp at h

theorem RaisesOnly.map {x : EStateM ε σ α} (f : α → β) (hx : RaisesOnly P x) :
    RaisesOnly P (f <$> x) := by
  intro s e h
  rw [run_map] at h
  cases hrun : x.run s with
  | ok a s' => simp [hrun] at h
  | error e' s' =>
    obtain rfl : e' = e := by simpa [hrun] using h
    exact hx s e' (by rw [hrun]; rfl)

theorem RaisesOnly.bind {x : EStateM ε σ α} {f : α → EStateM ε σ β} (hx : RaisesOnly P x)
    (hf : ∀ a, RaisesOnly P (f a)) : RaisesOnly P (x >>= f) := by
  intro s e h
  rw [EStateM.run_bind] at h
  cases hrun : x.run s with
  | ok a s' =>
    rw [hrun] at h
    exact hf a s' e h
  | error e' s' =>
    obtain rfl : e' = e := by simpa [hrun] using h
    exact hx s e' (by rw [hrun]; rfl)

theorem RaisesOnly.catching {p : ε → Bool} {x : EStateM ε σ α} {handler : ε → EStateM ε σ α}
    (hx : RaisesOnly P x) (hhandler : ∀ e, RaisesOnly P (handler e)) :
    RaisesOnly P (catching p x handler) := by
  intro s e h
  rw [run_catching] at h
  cases hrun : x.run s with
  | ok a s' => simp [hrun] at h
  | error e' s' =>
    rw [hrun] at h
    by_cases hp : p e' = true
    · simp only [hp, if_true] at h
      exact hhandler e' s' e h
    · obtain rfl : e' = e := by simpa [hp] using h
      exact hx s e' (by rw [hrun]; rfl)

theorem RaisesOnly.forM {xs : List α} {f : α → EStateM ε σ PUnit}
    (h : ∀ x, RaisesOnly P (f x)) : RaisesOnly P (forM xs f) := by
  induction xs with
  | nil => exact .pure _
  | cons x xs ih =>
    rw [List.forM_cons]
    exact .bind (h x) fun _ => ih

end RaisesOnly

end Effect
