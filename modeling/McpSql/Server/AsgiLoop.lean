import Mathlib.Data.List.Count
import Mathlib.Logic.Function.Basic
import McpSql.Exceptions
import McpSql.Foundations.OnceCell

/-!
# `_get_asgi_loop`

The lazy start of the one event loop of a worker (`views/mcp_endpoint.py`), called by any number of
threads.  A call looks the loop up, and on a miss looks again under the lock before it starts one
and waits for it to run.  Loops are numbered in the order their threads are started.
-/

namespace McpSql

open Python PyStr GuardedRun

/-! ## The protocol -/

/-- Where a thread is in `_get_asgi_loop`. -/
inductive LoopPhase where
  /-- Outside a call. -/
  | idle
  /-- Behind the first lookup, which missed, and before the lock. -/
  | locking
  /-- Under the lock, before the second lookup. -/
  | checking
  /-- In `running.wait(timeout=5)` for a loop whose thread was started. -/
  | waiting (loop : ℕ)
  /-- Behind a wait that saw the loop run, before `_asgi_loop_holder["loop"] = loop`. -/
  | publishing (loop : ℕ)
  /-- At the end of the `with` block, with what the call returns or raises. -/
  | leaving (answer : Except PyExc ℕ)
  deriving Repr

/-- The phases under the lock. -/
def LoopPhase.isLocked : LoopPhase → Bool
  | idle | locking => false
  | checking | waiting _ | publishing _ | leaving _ => true

/-- The state the threads share, where each of them is, and what their calls have answered. -/
structure LoopState (τ : Type) where
  /-- `_asgi_loop_holder.get("loop")`. -/
  holder : Option ℕ := none
  /-- Who holds `_asgi_loop_lock`. -/
  lock : Option τ := none
  started : ℕ := 0
  /-- The loops that have set their `running` event. -/
  running : ℕ → Bool := fun _ => false
  phase : τ → LoopPhase := fun _ => .idle
  answers : List (τ × Except PyExc ℕ) := []

/-- A step of a thread or of the thread of a loop. -/
inductive LoopTurn (τ : Type) where
  /-- Call, with the lookup outside the lock. -/
  | lookUp (t : τ)
  | acquire (t : τ)
  /-- The lookup under the lock; on a miss a loop and its thread are started, or that raises. -/
  | start (t : τ) (fault : Option PyExc)
  /-- The thread of a loop reaches `run_forever`. -/
  | run (loop : ℕ)
  /-- The wait returns: the event is set, or five seconds have passed. -/
  | wait (t : τ)
  | publish (t : τ)
  | release (t : τ)

/-- The thread whose call takes the step. -/
def LoopTurn.caller {τ : Type} : LoopTurn τ → Option τ
  | lookUp t | acquire t | start t _ | wait t | publish t | release t => some t
  | run _ => none

/-- The exception of a loop that did not start. -/
def loopTimeout : PyExc :=
  .otherException (lit "RuntimeError") (some (lit "mcp-sql ASGI event loop did not start within 5s"))

section Protocol

variable {τ : Type} [DecidableEq τ]

/-- Move a thread on. -/
def LoopState.goTo (s : LoopState τ) (t : τ) (phase : LoopPhase) : LoopState τ :=
  { s with phase := Function.update s.phase t phase }

/-- Leave the call. -/
def LoopState.answer (s : LoopState τ) (t : τ) (answer : Except PyExc ℕ) : LoopState τ :=
  { s with phase := Function.update s.phase t .idle, answers := s.answers ++ [(t, answer)] }

/-- One step of `_get_asgi_loop`. -/
def getAsgiLoop (s : LoopState τ) : LoopTurn τ → Option (LoopState τ)
  | .lookUp t =>
    match s.phase t with
    | .idle =>
      match s.holder with
      | some loop => some (s.answer t (.ok loop))
      | none => some (s.goTo t .locking)
    | _ => none
  | .acquire t =>
    match s.phase t, s.lock with
    | .locking, none => some ({ s with lock := some t }.goTo t .checking)
    | _, _ => none
  | .start t fault =>
    match s.phase t with
    | .checking =>
      match s.holder, fault with
      | some loop, _ => some (s.goTo t (.leaving (.ok loop)))
      | none, some e => some (s.goTo t (.leaving (.error e)))
      | none, none => some ({ s with started := s.started + 1 }.goTo t (.waiting s.started))
    | _ => none
  | .run loop =>
    if loop < s.started then some { s with running := Function.update s.running loop true } else none
  | .wait t =>
    match s.phase t with
    | .waiting loop =>
      if s.running loop then some (s.goTo t (.publishing loop))
      else some (s.goTo t (.leaving (.error loopTimeout)))
    | _ => none
  | .publish t =>
    match s.phase t with
    | .publishing loop => some ({ s with holder := some loop }.goTo t (.leaving (.ok loop)))
    | _ => none
  | .release t =>
    match s.phase t with
    | .leaving answer => some ({ s with lock := none }.answer t answer)
    | _ => none

/-- A step, as a relation. -/
def LoopStep (s : LoopState τ) (turn : LoopTurn τ) (s' : LoopState τ) : Prop :=
  getAsgiLoop s turn = some s'

/-! ## What a step does -/

/-- The steps of the protocol, one for each branch. -/
inductive LoopMove (s : LoopState τ) : LoopTurn τ → LoopState τ → Prop
  | hit {t : τ} {loop : ℕ} (hphase : s.phase t = .idle) (hholder : s.holder = some loop) :
      LoopMove s (.lookUp t) (s.answer t (.ok loop))
  | miss {t : τ} (hphase : s.phase t = .idle) (hholder : s.holder = none) :
      LoopMove s (.lookUp t) (s.goTo t .locking)
  | acquire {t : τ} (hphase : s.phase t = .locking) (hlock : s.lock = none) :
      LoopMove s (.acquire t) ({ s with lock := some t }.goTo t .checking)
  | found {t : τ} {fault : Option PyExc} {loop : ℕ} (hphase : s.phase t = .checking)
      (hholder : s.holder = some loop) :
      LoopMove s (.start t fault) (s.goTo t (.leaving (.ok loop)))
  | raised {t : τ} {e : PyExc} (hphase : s.phase t = .checking) (hholder : s.holder = none) :
      LoopMove s (.start t (some e)) (s.goTo t (.leaving (.error e)))
  | start {t : τ} (hphase : s.phase t = .checking) (hholder : s.holder = none) :
      LoopMove s (.start t none)
        ({ s with started := s.started + 1 }.goTo t (.waiting s.started))
  | run {loop : ℕ} (hloop : loop < s.started) :
      LoopMove s (.run loop) { s with running := Function.update s.running loop true }
  | ran {t : τ} {loop : ℕ} (hphase : s.phase t = .waiting loop) (hrunning : s.running loop = true) :
      LoopMove s (.wait t) (s.goTo t (.publishing loop))
  | timedOut {t : τ} {loop : ℕ} (hphase : s.phase t = .waiting loop)
      (hrunning : s.running loop = false) :
      LoopMove s (.wait t) (s.goTo t (.leaving (.error loopTimeout)))
  | publish {t : τ} {loop : ℕ} (hphase : s.phase t = .publishing loop) :
      LoopMove s (.publish t) ({ s with holder := some loop }.goTo t (.leaving (.ok loop)))
  | release {t : τ} {answer : Except PyExc ℕ} (hphase : s.phase t = .leaving answer) :
      LoopMove s (.release t) ({ s with lock := none }.answer t answer)

theorem move_of_step {s s' : LoopState τ} {turn : LoopTurn τ} (h : LoopStep s turn s') :
    LoopMove s turn s' := by
  unfold LoopStep getAsgiLoop at h
  cases turn with
  | lookUp t =>
    cases hphase : s.phase t with
    | idle =>
      cases hholder : s.holder with
      | some loop =>
        simp only [hphase, hholder, Option.some.injEq] at h
        exact h ▸ .hit hphase hholder
      | none =>
        simp only [hphase, hholder, Option.some.injEq] at h
        exact h ▸ .miss hphase hholder
    | _ => simp [hphase] at h
  | acquire t =>
    cases hphase : s.phase t with
    | locking =>
      cases hlock : s.lock with
      | some u => simp [hphase, hlock] at h
      | none =>
        simp only [hphase, hlock, Option.some.injEq] at h
        exact h ▸ .acquire hphase hlock
    | _ => simp [hphase] at h
  | start t fault =>
    cases hphase : s.phase t with
    | checking =>
      cases hholder : s.holder with
      | some loop =>
        simp only [hphase, hholder, Option.some.injEq] at h
        exact h ▸ .found hphase hholder
      | none =>
        cases fault with
        | some e =>
          simp only [hphase, hholder, Option.some.injEq] at h
          exact h ▸ .raised hphase hholder
        | none =>
          have hstarted : getAsgiLoop s (.start t none) =
              some ({ s with started := s.started + 1 }.goTo t (.waiting s.started)) := by
            simp [getAsgiLoop, hphase, hholder]
          exact Option.some.inj (hstarted.symm.trans h) ▸ .start hphase hholder
    | _ => simp [hphase] at h
  | run loop =>
    by_cases hloop : loop < s.started
    · simp only [hloop, if_true, Option.some.injEq] at h
      exact h ▸ .run hloop
    · simp [hloop] at h
  | wait t =>
    cases hphase : s.phase t with
    | waiting loop =>
      cases hrunning : s.running loop with
      | true =>
        simp only [hphase, hrunning, if_true, Option.some.injEq] at h
        exact h ▸ .ran hphase hrunning
      | false =>
        simp only [hphase, hrunning, Bool.false_eq_true, if_false, Option.some.injEq] at h
        exact h ▸ .timedOut hphase hrunning
    | _ => simp [hphase] at h
  | publish t =>
    cases hphase : s.phase t with
    | publishing loop =>
      simp only [hphase, Option.some.injEq] at h
      exact h ▸ .publish hphase
    | _ => simp [hphase] at h
  | release t =>
    cases hphase : s.phase t with
    | leaving answer =>
      simp only [hphase, Option.some.injEq] at h
      exact h ▸ .release hphase
    | _ => simp [hphase] at h

/-! ## The invariant -/

/-- What is known of the holder, and of the loops that run, while a thread is in a phase. -/
def PhaseFits (holder : Option ℕ) (running : ℕ → Bool) : LoopPhase → Prop
  | .waiting _ | .leaving (.error _) => holder = none
  | .publishing loop => holder = none ∧ running loop = true
  | .leaving (.ok loop) => holder = some loop
  | .idle | .locking | .checking => True

/-- The loops started in a phase that no holder and no answer accounts for. -/
def LoopPhase.unsettled : LoopPhase → ℕ
  | waiting _ | publishing _ | leaving (.error _) => 1
  | idle | locking | checking | leaving (.ok _) => 0

/-- The calls that raised. -/
def raisedCalls (answers : List (τ × Except PyExc ℕ)) : ℕ :=
  answers.countP fun answer => !answer.2.toBool

/-- The loops the thread under the lock accounts for. -/
def LoopState.unsettled (s : LoopState τ) : ℕ := (s.lock.map fun t => (s.phase t).unsettled).getD 0

/-- The invariant of the protocol: who holds the lock is the one thread behind it, nobody is about
to publish while a loop is published, and every loop is published, failed or on its way. -/
structure LoopInv (s : LoopState τ) : Prop where
  owner : ∀ t, (s.phase t).isLocked = true ↔ s.lock = some t
  fits : ∀ t, PhaseFits s.holder s.running (s.phase t)
  holderRuns : ∀ loop, s.holder = some loop → s.running loop = true
  settled : s.started ≤ s.holder.toList.length + raisedCalls s.answers + s.unsettled

omit [DecidableEq τ] in
theorem loopInv_initial : LoopInv ({} : LoopState τ) where
  owner t := by simp [LoopPhase.isLocked]
  fits t := trivial
  holderRuns loop h := by simp at h
  settled := by simp

/-- A thread outside the lock fits whatever the holder is. -/
theorem phaseFits_of_not_isLocked {holder : Option ℕ} {running : ℕ → Bool} {phase : LoopPhase}
    (h : ¬phase.isLocked = true) : PhaseFits holder running phase := by
  cases phase with
  | idle => trivial
  | locking => trivial
  | _ => simp [LoopPhase.isLocked] at h

section Moves

variable {s : LoopState τ} {t : τ} {phase : LoopPhase} (h : LoopInv s)
include h

omit [DecidableEq τ] in
/-- Beside a thread under the lock, every thread is outside it. -/
theorem LoopInv.not_isLocked (hlocked : (s.phase t).isLocked = true) {u : τ} (hu : u ≠ t) :
    ¬(s.phase u).isLocked = true := by
  intro hother
  have htwo := (h.owner u).mp hother
  rw [(h.owner t).mp hlocked] at htwo
  exact hu (Option.some.inj htwo).symm

/-- A thread that stays on its side of the lock leaves the owner of the lock as it is. -/
theorem LoopInv.same_owner (hside : phase.isLocked = (s.phase t).isLocked) (u : τ) :
    (Function.update s.phase t phase u).isLocked = true ↔ s.lock = some u := by
  by_cases hu : u = t
  · rw [hu, Function.update_self, hside]
    exact h.owner t
  · rw [Function.update_of_ne hu]
    exact h.owner u

/-- A thread moves on under the lock. -/
theorem LoopInv.goTo_locked (hlocked : (s.phase t).isLocked = true) (hnew : phase.isLocked = true)
    {holder : Option ℕ} {started : ℕ} (hfits : PhaseFits holder s.running phase)
    (hruns : ∀ loop, holder = some loop → s.running loop = true)
    (hsettled : started + s.holder.toList.length + (s.phase t).unsettled ≤
      s.started + holder.toList.length + phase.unsettled) :
    LoopInv ({ s with holder := holder, started := started }.goTo t phase) := by
  have hlock : s.lock = some t := (h.owner t).mp hlocked
  have hold : s.unsettled = (s.phase t).unsettled := by simp [LoopState.unsettled, hlock]
  have hbefore := h.settled
  refine ⟨h.same_owner (hnew.trans hlocked.symm), fun u => ?_, hruns, ?_⟩
  · show PhaseFits holder s.running (Function.update s.phase t phase u)
    by_cases hu : u = t
    · rw [hu, Function.update_self]
      exact hfits
    · rw [Function.update_of_ne hu]
      exact phaseFits_of_not_isLocked (h.not_isLocked hlocked hu)
  · have hunsettled : ({ s with holder := holder, started := started }.goTo t phase).unsettled =
        phase.unsettled := by simp [LoopState.unsettled, LoopState.goTo, hlock]
    rw [hunsettled]
    show started ≤ holder.toList.length + raisedCalls s.answers + phase.unsettled
    omega

/-- A thread moves on outside the lock; what calls have raised stays. -/
theorem LoopInv.goTo_unlocked (hout : ¬(s.phase t).isLocked = true)
    (hnew : ¬phase.isLocked = true) {answers : List (τ × Except PyExc ℕ)}
    (hanswers : raisedCalls answers = raisedCalls s.answers) :
    LoopInv ({ s with answers := answers }.goTo t phase) := by
  have hside : phase.isLocked = (s.phase t).isLocked := by
    rw [Bool.eq_false_iff.mpr hout, Bool.eq_false_iff.mpr hnew]
  refine ⟨h.same_owner hside, fun u => ?_, h.holderRuns, ?_⟩
  · show PhaseFits s.holder s.running (Function.update s.phase t phase u)
    by_cases hu : u = t
    · rw [hu, Function.update_self]
      exact phaseFits_of_not_isLocked hnew
    · rw [Function.update_of_ne hu]
      exact h.fits u
  · have hunsettled : ({ s with answers := answers }.goTo t phase).unsettled = s.unsettled := by
      cases hlock : s.lock with
      | none => simp [LoopState.unsettled, LoopState.goTo, hlock]
      | some u =>
        have hu : u ≠ t := by
          rintro rfl
          exact hout ((h.owner u).mpr hlock)
        simp [LoopState.unsettled, LoopState.goTo, hlock, Function.update_of_ne hu]
    rw [hunsettled]
    show s.started ≤ s.holder.toList.length + raisedCalls answers + s.unsettled
    rw [hanswers]
    exact h.settled

/-- A thread takes the free lock. -/
theorem LoopInv.acquire (hlock : s.lock = none) :
    LoopInv ({ s with lock := some t }.goTo t .checking) := by
  have hout : ∀ u, ¬(s.phase u).isLocked = true := by
    intro u hu
    have howner := (h.owner u).mp hu
    rw [hlock] at howner
    exact absurd howner (Option.some_ne_none u).symm
  refine ⟨fun u => ?_, fun u => ?_, h.holderRuns, ?_⟩
  · show (Function.update s.phase t .checking u).isLocked = true ↔ some t = some u
    by_cases hu : u = t
    · rw [hu, Function.update_self]
      exact iff_of_true rfl rfl
    · rw [Function.update_of_ne hu]
      exact iff_of_false (hout u) fun heq => hu (Option.some.inj heq).symm
  · show PhaseFits s.holder s.running (Function.update s.phase t .checking u)
    by_cases hu : u = t
    · rw [hu, Function.update_self]
      trivial
    · rw [Function.update_of_ne hu]
      exact h.fits u
  · have hbefore := h.settled
    simpa [LoopState.unsettled, LoopState.goTo, hlock, LoopPhase.unsettled] using hbefore

/-- A thread leaves the lock with its answer. -/
theorem LoopInv.release {answer : Except PyExc ℕ} (hphase : s.phase t = .leaving answer) :
    LoopInv ({ s with lock := none }.answer t answer) := by
  have hlocked : (s.phase t).isLocked = true := by
    rw [hphase]
    rfl
  have hout : ∀ u, ¬(Function.update s.phase t .idle u).isLocked = true := by
    intro u
    by_cases hu : u = t
    · rw [hu, Function.update_self]
      exact Bool.false_ne_true
    · rw [Function.update_of_ne hu]
      exact h.not_isLocked hlocked hu
  refine ⟨fun u => iff_of_false (hout u) (Option.some_ne_none u).symm,
    fun u => phaseFits_of_not_isLocked (hout u), h.holderRuns, ?_⟩
  have hbefore := h.settled
  have hlock : s.lock = some t := (h.owner t).mp hlocked
  have hanswers : raisedCalls (s.answers ++ [(t, answer)]) =
      raisedCalls s.answers + (LoopPhase.leaving answer).unsettled := by
    cases answer with
    | ok loop => simp [raisedCalls, Except.toBool, LoopPhase.unsettled]
    | error e => simp [raisedCalls, Except.toBool, LoopPhase.unsettled]
  show s.started ≤ s.holder.toList.length + raisedCalls (s.answers ++ [(t, answer)]) + 0
  simp only [LoopState.unsettled, hlock, hphase, Option.map_some, Option.getD_some] at hbefore
  omega

omit [DecidableEq τ] in
/-- A loop comes to run. -/
theorem LoopInv.run (loop : ℕ) :
    LoopInv { s with running := Function.update s.running loop true } := by
  have hmore : ∀ other, s.running other = true →
      Function.update s.running loop true other = true := by
    intro other hother
    by_cases heq : other = loop
    · rw [heq, Function.update_self]
    · rw [Function.update_of_ne heq]
      exact hother
  refine ⟨h.owner, fun t => ?_, fun other hother => hmore other (h.holderRuns other hother),
    h.settled⟩
  have hfits := h.fits t
  cases hphase : s.phase t with
  | publishing other =>
    rw [hphase] at hfits
    exact ⟨hfits.1, hmore other hfits.2⟩
  | leaving answer => cases answer <;> rw [hphase] at hfits <;> exact hfits
  | waiting other =>
    rw [hphase] at hfits
    exact hfits
  | _ => trivial

end Moves

/-- The steps preserve the invariant. -/
theorem loopInv_step {s s' : LoopState τ} {turn : LoopTurn τ} (h : LoopInv s)
    (hstep : LoopStep s turn s') : LoopInv s' := by
  have hmove := move_of_step hstep
  cases hmove with
  | @hit t loop hphase hholder =>
    have hidle : ¬LoopPhase.idle.isLocked = true := Bool.false_ne_true
    show LoopInv ({ s with answers := s.answers ++ [(t, Except.ok loop)] }.goTo t .idle)
    refine h.goTo_unlocked (by rw [hphase]; exact hidle) hidle ?_
    simp [raisedCalls, Except.toBool]
  | @miss t hphase hholder =>
    have hidle : ¬LoopPhase.idle.isLocked = true := Bool.false_ne_true
    have hlocking : ¬LoopPhase.locking.isLocked = true := Bool.false_ne_true
    exact h.goTo_unlocked (by rw [hphase]; exact hidle) hlocking rfl
  | @acquire t hphase hlock => exact h.acquire hlock
  | @found t fault loop hphase hholder =>
    exact h.goTo_locked (by rw [hphase]; rfl) rfl hholder h.holderRuns
      (by rw [hphase]; exact Nat.le_refl _)
  | @raised t e hphase hholder =>
    refine h.goTo_locked (by rw [hphase]; rfl) rfl hholder h.holderRuns ?_
    rw [hphase]
    exact Nat.le_succ _
  | @start t hphase hholder =>
    refine h.goTo_locked (by rw [hphase]; rfl) rfl hholder h.holderRuns ?_
    rw [hphase]
    simp only [LoopPhase.unsettled]
    omega
  | @run loop hloop => exact h.run loop
  | @ran t loop hphase hrunning =>
    have hholder : s.holder = none := by simpa [hphase, PhaseFits] using h.fits t
    exact h.goTo_locked (by rw [hphase]; rfl) rfl ⟨hholder, hrunning⟩ h.holderRuns
      (by rw [hphase]; exact Nat.le_refl _)
  | @timedOut t loop hphase hrunning =>
    have hholder : s.holder = none := by simpa [hphase, PhaseFits] using h.fits t
    exact h.goTo_locked (by rw [hphase]; rfl) rfl hholder h.holderRuns
      (by rw [hphase]; exact Nat.le_refl _)
  | @publish t loop hphase =>
    obtain ⟨hholder, hrunning⟩ : s.holder = none ∧ s.running loop = true := by
      simpa [hphase, PhaseFits] using h.fits t
    refine h.goTo_locked (by rw [hphase]; rfl) rfl rfl ?_ ?_
    · intro other hother
      rw [← Option.some.inj hother]
      exact hrunning
    · rw [hphase, hholder]
      exact Nat.le_refl _
  | @release t answer hphase => exact h.release hphase

/-! ## The holder as a cell -/

/-- The cell behind the protocol: the published loop, and the calls that have returned. -/
def LoopState.cell (s : LoopState τ) : OnceCell.Cell ℕ :=
  ⟨s.holder, s.answers.filterMap fun answer => answer.2.toOption⟩

omit [DecidableEq τ] in
theorem cell_answers_append (s : LoopState τ) (t : τ) (answer : Except PyExc ℕ) :
    (s.answers ++ [(t, answer)]).filterMap (fun answer => answer.2.toOption) =
      s.cell.answers ++ answer.toOption.toList := by
  rw [List.filterMap_append]
  cases answer with
  | ok loop => rfl
  | error e => rfl

/-- Every step is a step of the cell: publishing fills it, and a call that returns is an answer. -/
theorem cell_step {s s' : LoopState τ} {turn : LoopTurn τ} (h : LoopInv s)
    (hstep : LoopStep s turn s') : ∃ event, OnceCell.Step s.cell event s'.cell := by
  have hanswered : ∀ {t : τ} {loop : ℕ}, s.holder = some loop → ∀ lock,
      OnceCell.Step s.cell (.answer loop)
        ({ s with lock := lock }.answer t (Except.ok loop)).cell := by
    intro t loop hholder lock
    have hcell : ({ s with lock := lock }.answer t (Except.ok loop)).cell =
        { s.cell with answers := s.cell.answers ++ [loop] } :=
      congrArg (OnceCell.Cell.mk s.holder) (cell_answers_append s t (.ok loop))
    rw [hcell]
    exact .answer hholder
  have hmove := move_of_step hstep
  cases hmove with
  | @hit t loop hphase hholder => exact ⟨_, hanswered hholder s.lock⟩
  | @publish t loop hphase =>
    obtain ⟨hholder, -⟩ : s.holder = none ∧ s.running loop = true := by
      simpa [hphase, PhaseFits] using h.fits t
    exact ⟨.fill loop, .fill hholder⟩
  | @release t answer hphase =>
    have hfits := h.fits t
    rw [hphase] at hfits
    cases answer with
    | ok loop => exact ⟨_, hanswered hfits none⟩
    | error e =>
      have hcell : ({ s with lock := none }.answer t (Except.error e)).cell = s.cell :=
        congrArg (OnceCell.Cell.mk s.holder)
          ((cell_answers_append s t (.error e)).trans (List.append_nil _))
      exact ⟨.skip, hcell ▸ .skip⟩
  | _ => exact ⟨.skip, .skip⟩

/-- A run of the protocol is a run of the cell. -/
theorem cell_run {s s' : LoopState τ} (h : LoopInv s) (hrun : FreeRun LoopStep s s') :
    FreeRun OnceCell.Step s.cell s'.cell := by
  have hguarded := Run.guarded hrun h fun s a t hs _ hstep => loopInv_step hs hstep
  refine hguarded.refine LoopState.cell ?_
  rintro u turn v ⟨-, hu⟩ hstep
  obtain ⟨event, hevent⟩ := cell_step hu hstep
  exact ⟨event, trivial, hevent⟩

/-! ## Runs -/

theorem loopInv_run {s s' : LoopState τ} (h : LoopInv s) (hrun : FreeRun LoopStep s s') :
    LoopInv s' :=
  invariant hrun h fun _ _ _ hs _ hstep => loopInv_step hs hstep

/-- Once a loop is published, no other is started. -/
theorem started_eq_of_published {s s' : LoopState τ} (h : LoopInv s)
    (hrun : FreeRun LoopStep s s') {loop : ℕ} (hholder : s.holder = some loop) :
    s'.started = s.started := by
  have hguarded := Run.guarded hrun h fun s a t hs _ hstep => loopInv_step hs hstep
  have hboth : s'.holder = some loop ∧ s'.started = s.started := by
    refine invariant (P := fun t => t.holder = some loop ∧ t.started = s.started) hguarded
      ⟨hholder, rfl⟩ ?_
    rintro u turn v ⟨hu, hstarted⟩ ⟨-, hinv⟩ hstep
    have hmove := move_of_step hstep
    cases hmove with
    | @start t hphase hnone => simp [hu] at hnone
    | @publish t other hphase =>
      have hfits := hinv.fits t
      rw [hphase] at hfits
      simp [hu, PhaseFits] at hfits
    | _ => exact ⟨hu, hstarted⟩
  exact hboth.2

/-- The steps a thread has left in its call. -/
def LoopPhase.left : LoopPhase → ℕ
  | idle => 0
  | leaving _ => 1
  | publishing _ => 2
  | waiting _ => 3
  | checking => 4
  | locking => 5

/-- While a call is going on, the thread under the lock, or the caller when nobody is, can take a
step that brings it closer to its end. -/
theorem loop_progress {s : LoopState τ} (h : LoopInv s) {t : τ} (hcall : s.phase t ≠ .idle) :
    ∃ turn s', turn.caller = some (s.lock.getD t) ∧ LoopStep s turn s' ∧
      (s'.phase (s.lock.getD t)).left < (s.phase (s.lock.getD t)).left := by
  cases hlock : s.lock with
  | none =>
    have hout : ¬(s.phase t).isLocked = true := by
      intro hlocked
      have howner := (h.owner t).mp hlocked
      simp [hlock] at howner
    cases hphase : s.phase t with
    | idle => exact absurd hphase hcall
    | locking =>
      refine ⟨.acquire t, { s with lock := some t }.goTo t .checking, rfl, ?_, ?_⟩
      · simp [LoopStep, getAsgiLoop, hphase, hlock]
      · simp [LoopState.goTo, hphase, LoopPhase.left]
    | _ => simp [hphase, LoopPhase.isLocked] at hout
  | some u =>
    have hlocked := (h.owner u).mpr hlock
    rw [Option.getD_some]
    cases hphase : s.phase u with
    | idle => simp [hphase, LoopPhase.isLocked] at hlocked
    | locking => simp [hphase, LoopPhase.isLocked] at hlocked
    | checking =>
      cases hholder : s.holder with
      | some loop =>
        refine ⟨.start u none, s.goTo u (.leaving (.ok loop)), rfl, ?_, ?_⟩
        · simp [LoopStep, getAsgiLoop, hphase, hholder]
        · simp [LoopState.goTo, LoopPhase.left]
      | none =>
        refine ⟨.start u none, { s with started := s.started + 1 }.goTo u (.waiting s.started), rfl,
          ?_, ?_⟩
        · simp [LoopStep, getAsgiLoop, hphase, hholder]
        · simp [LoopState.goTo, LoopPhase.left]
    | waiting loop =>
      cases hrunning : s.running loop with
      | true =>
        refine ⟨.wait u, s.goTo u (.publishing loop), rfl, ?_, ?_⟩
        · simp [LoopStep, getAsgiLoop, hphase, hrunning]
        · simp [LoopState.goTo, LoopPhase.left]
      | false =>
        refine ⟨.wait u, s.goTo u (.leaving (.error loopTimeout)), rfl, ?_, ?_⟩
        · simp [LoopStep, getAsgiLoop, hphase, hrunning]
        · simp [LoopState.goTo, LoopPhase.left]
    | publishing loop =>
      refine ⟨.publish u, { s with holder := some loop }.goTo u (.leaving (.ok loop)), rfl, ?_, ?_⟩
      · simp [LoopStep, getAsgiLoop, hphase]
      · simp [LoopState.goTo, LoopPhase.left]
    | leaving answer =>
      refine ⟨.release u, { s with lock := none }.answer u answer, rfl, ?_, ?_⟩
      · simp [LoopStep, getAsgiLoop, hphase]
      · simp [LoopState.answer, LoopPhase.left]

/-- Whatever the interleaving of any number of callers, and whatever starts fail or time out: all
calls that return return the one published loop, and it runs; a published loop is never replaced and
no other is started after it; beside it there is at most one loop for each call that raised; one
thread at a time is under the lock, and a call is never stuck.  The holder and what was returned are
a run of a cell that is written once. -/
theorem one_asgi_loop (s : LoopState τ) (hrun : FreeRun LoopStep {} s) :
    (∀ t loop, (t, .ok loop) ∈ s.answers → s.holder = some loop ∧ s.running loop = true) ∧
      (∀ loop s', s.holder = some loop → FreeRun LoopStep s s' →
        s'.holder = some loop ∧ s'.started = s.started) ∧
      s.started ≤ raisedCalls s.answers + 1 ∧
      (∀ t u, (s.phase t).isLocked = true → (s.phase u).isLocked = true → t = u) ∧
      (∀ t, s.phase t ≠ .idle → ∃ turn s', turn.caller = some (s.lock.getD t) ∧
        LoopStep s turn s' ∧
          (s'.phase (s.lock.getD t)).left < (s.phase (s.lock.getD t)).left) ∧
      FreeRun OnceCell.Step {} s.cell := by
  have hinv : LoopInv s := loopInv_run loopInv_initial hrun
  refine ⟨fun t loop hmem => ?_, fun loop s' hholder hrun' => ?_, ?_, fun t u ht hu => ?_,
    fun t hcall => loop_progress hinv hcall, cell_run loopInv_initial hrun⟩
  · have hanswer : loop ∈ s.cell.answers := List.mem_filterMap.mpr ⟨_, hmem, rfl⟩
    have hholder : s.holder = some loop :=
      OnceCell.content_of_mem_answers (cell_run loopInv_initial hrun) hanswer
    exact ⟨hholder, hinv.holderRuns loop hholder⟩
  · exact ⟨OnceCell.content_kept (cell_run hinv hrun') hholder,
      started_eq_of_published hinv hrun' hholder⟩
  · have hsettled := hinv.settled
    cases hlock : s.lock with
    | none =>
      have hlength : s.holder.toList.length ≤ 1 := by cases s.holder <;> simp
      simp only [LoopState.unsettled, hlock, Option.map_none, Option.getD_none] at hsettled
      omega
    | some t =>
      have hfits := hinv.fits t
      simp only [LoopState.unsettled, hlock, Option.map_some, Option.getD_some] at hsettled
      -- a loop that is not settled yet and a published one exclude each other
      cases hholder : s.holder with
      | none =>
        have hone : (s.phase t).unsettled ≤ 1 := by
          cases s.phase t with
          | leaving answer => cases answer <;> simp [LoopPhase.unsettled]
          | _ => simp [LoopPhase.unsettled]
        simp only [hholder, Option.toList_none, List.length_nil] at hsettled
        omega
      | some loop =>
        have hzero : (s.phase t).unsettled = 0 := by
          cases hphase : s.phase t with
          | waiting other => simp [hphase, hholder, PhaseFits] at hfits
          | publishing other => simp [hphase, hholder, PhaseFits] at hfits
          | leaving answer =>
            cases answer with
            | ok other => rfl
            | error e => simp [hphase, hholder, PhaseFits] at hfits
          | _ => rfl
        simp only [hholder, Option.toList_some, List.length_singleton, hzero] at hsettled
        omega
  · have htwo := (hinv.owner t).mp ht
    rw [(hinv.owner u).mp hu] at htwo
    exact (Option.some.inj htwo).symm

end Protocol

/-- A start that times out, and a second call that starts the loop the third one finds. -/
theorem one_asgi_loop_retried :
    ∃ s : LoopState Bool, FreeRun LoopStep {} s ∧ s.holder = some 1 ∧ s.started = 2 ∧
      ∀ t loop, (t, .ok loop) ∈ s.answers → s.holder = some loop ∧ s.running loop = true := by
  let turns : List (LoopTurn Bool) :=
    [.lookUp true, .lookUp false, .acquire true, .start true none, .wait true, .release true,
      .acquire false, .start false none, .run 1, .wait false, .publish false, .release false,
      .lookUp true]
  obtain ⟨s, hreplay, hholder, hstarted⟩ : ∃ s, replay getAsgiLoop (fun _ _ => true) turns {} =
      some s ∧ s.holder = some 1 ∧ s.started = 2 := ⟨_, rfl, rfl, rfl⟩
  have hrun : FreeRun LoopStep {} s := (run_of_replay hreplay).free
  exact ⟨s, hrun, hholder, hstarted, (one_asgi_loop s hrun).1⟩

end McpSql
