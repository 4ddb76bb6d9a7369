import McpSql.Foundations.FixedWindow
import McpSql.Foundations.GuardedRun
import Mathlib.Data.List.Basic
import Mathlib.Data.List.Count

/-!
# Counters that many workers advance

Every worker has a list of counters to advance, each by a seed and an increment, and the two steps of
one worker interleave with those of all others.  Along a run in which a key does not expire the
increments of that key answer `1`, `2`, `3`, … in this order: `Counted` is the invariant, `counted`
the run lemma, and `count_threshold` says how many of the answers are a given number.
-/

namespace SharedCount

open FixedWindow GuardedRun

variable {κ : Type}

/-- A counter to advance, and the time to live it is seeded with. -/
structure Job (κ : Type) where
  key : κ
  ttl : ℕ

/-- What a worker has left to count, and whether it has seeded the first of them. -/
structure Worker (κ : Type) where
  jobs : List (Job κ)
  seeded : Bool

/-- The shared cache, the workers, and what the increments answered so far. -/
structure State (κ : Type) where
  cache : Cache κ
  workers : List (Worker κ)
  answers : List (κ × Option ℕ)

/-- What happens next: a worker takes its next step, or time passes. -/
inductive Turn where
  | worker (i : ℕ)
  | wait (seconds : ℕ)
  deriving DecidableEq, Repr

section Steps

variable [DecidableEq κ]

/-- The next step of a worker: what it has left, the cache, and the answer of its increment. -/
def advance (worker : Worker κ) (cache : Cache κ) : Worker κ × Cache κ × List (κ × Option ℕ) :=
  match worker.jobs, worker.seeded with
  | [], _ => (worker, cache, [])
  | job :: rest, false => (⟨job :: rest, true⟩, (cache.add job.key 0 job.ttl).2, [])
  | job :: rest, true =>
    match cache.incr job.key with
    | some (count, cache') => (⟨rest, false⟩, cache', [(job.key, some count)])
    | none => (⟨rest, false⟩, cache, [(job.key, none)])

/-- One step of the system. -/
def takeTurn (s : State κ) : Turn → Option (State κ)
  | .worker i => s.workers[i]?.map fun worker =>
      let (worker', cache, answers) := advance worker s.cache
      ⟨cache, s.workers.set i worker', s.answers ++ answers⟩
  | .wait seconds => some { s with cache := s.cache.tick seconds }

/-- The turn does not make the counter of the key expire. -/
def keepsKey (k : κ) (s : State κ) : Turn → Bool
  | .worker _ => true
  | .wait seconds => (s.cache.live k).all fun e => s.cache.now + seconds < e.expires

/-- A run in which the key does not expire. -/
def WindowRun (k : κ) : State κ → State κ → Prop :=
  Run (fun s turn t => takeTurn s turn = some t) (fun s turn => keepsKey k s turn)

/-! ## Bookkeeping -/

/-- How many increments of the key a worker has left. -/
def Worker.left (k : κ) (worker : Worker κ) : ℕ := worker.jobs.countP (·.key = k)

/-- How many increments of the key are left. -/
def State.left (k : κ) (s : State κ) : ℕ := (s.workers.flatMap Worker.jobs).countP (·.key = k)

/-- What the increments of the key answered. -/
def State.answersOn (k : κ) (s : State κ) : List (Option ℕ) :=
  (s.answers.filter (·.1 = k)).map Prod.snd

/-- The worker has seeded the key and not counted it yet. -/
def Worker.SeededOn (k : κ) (worker : Worker κ) : Prop :=
  worker.seeded = true ∧ ∃ job rest, worker.jobs = job :: rest ∧ job.key = k

omit [DecidableEq κ] in
/-- Replacing an element changes a count by what the two elements contribute. -/
theorem countP_flatMap_set {α β : Type} (p : β → Bool) (f : α → List β) {xs : List α} {i : ℕ} {x : α}
    (y : α) (h : xs[i]? = some x) :
    ((xs.set i y).flatMap f).countP p + (f x).countP p =
      (xs.flatMap f).countP p + (f y).countP p := by
  induction xs generalizing i with
  | nil => simp at h
  | cons z zs ih =>
    cases i with
    | zero =>
      obtain rfl : z = x := by simpa using h
      simp only [List.set_cons_zero, List.flatMap_cons, List.countP_append]
      omega
    | succ i =>
      have hrest := ih (i := i) (by simpa using h)
      simp only [List.set_cons_succ, List.flatMap_cons, List.countP_append]
      omega

/-- The answers on the key are the counts of the window so far, the counter and what is left add up
to all increments, whoever is about to count finds the key live, and every seed lasts. -/
structure Counted (k : κ) (total : ℕ) (s : State κ) : Prop where
  answers : s.answersOn k = (List.range' 1 (s.cache.count k)).map some
  balance : s.cache.count k + s.left k = total
  live : ∀ worker ∈ s.workers, worker.SeededOn k → (s.cache.live k).isSome = true
  lasts : ∀ worker ∈ s.workers, ∀ job ∈ worker.jobs, job.key = k → 0 < job.ttl

/-- Workers that have not started yet, before the key's window opens. -/
structure Opening (k : κ) (s : State κ) : Prop where
  unseeded : ∀ worker ∈ s.workers, worker.seeded = false
  fresh : s.cache.live k = none
  silent : s.answers = []
  lasts : ∀ worker ∈ s.workers, ∀ job ∈ worker.jobs, job.key = k → 0 < job.ttl

theorem Opening.counted {k : κ} {s : State κ} (h : Opening k s) : Counted k (s.left k) s := by
  have hcount : s.cache.count k = 0 := by simp [Cache.count, Cache.get, h.fresh]
  constructor
  · simp [State.answersOn, h.silent, hcount]
  · omega
  · intro worker hworker hseeded
    have hnot := h.unseeded worker hworker
    rw [hseeded.1] at hnot
    exact absurd hnot (by decide)
  · exact h.lasts

/-! ## One step -/

variable {k : κ} {total : ℕ} {s : State κ}

/-- A worker moves on: the invariant is kept when the counter, the answers and what the worker has
left balance, and the key stays live. -/
theorem Counted.replace (h : Counted k total s) {i : ℕ} {worker worker' : Worker κ}
    {cache : Cache κ} {answers : List (κ × Option ℕ)} (hi : s.workers[i]? = some worker)
    (hanswers : (answers.filter (·.1 = k)).map Prod.snd =
      (List.range' (1 + s.cache.count k) (cache.count k - s.cache.count k)).map some)
    (hcount : cache.count k + worker'.left k = s.cache.count k + worker.left k)
    (hgrows : s.cache.count k ≤ cache.count k)
    (hlive : (s.cache.live k).isSome = true → (cache.live k).isSome = true)
    (hseeded : worker'.SeededOn k → (cache.live k).isSome = true)
    (hjobs : worker'.jobs ⊆ worker.jobs) :
    Counted k total ⟨cache, s.workers.set i worker', s.answers ++ answers⟩ := by
  have hleft := countP_flatMap_set (·.key = k) Worker.jobs worker' hi
  have hbalance := h.balance
  have hmem : worker ∈ s.workers := List.mem_of_getElem? hi
  constructor
  · have hbefore := h.answers
    unfold State.answersOn at hbefore ⊢
    simp only [List.filter_append, List.map_append]
    rw [hbefore, hanswers, ← List.map_append]
    rw [List.range'_append_1, Nat.add_sub_cancel' hgrows]
  · simp only [State.left, Worker.left] at hbalance hcount ⊢
    omega
  · intro other hother hseededOther
    rcases List.mem_or_eq_of_mem_set hother with hold | rfl
    · exact hlive (h.live other hold hseededOther)
    · exact hseeded hseededOther
  · intro other hother job hjob hkey
    rcases List.mem_or_eq_of_mem_set hother with hold | rfl
    · exact h.lasts other hold job hjob hkey
    · exact h.lasts worker hmem job (hjobs hjob) hkey

/-- A seed leaves the count alone and makes its key live. -/
theorem Counted.seed (h : Counted k total s) {i : ℕ} {job : Job κ} {rest : List (Job κ)}
    (hi : s.workers[i]? = some ⟨job :: rest, false⟩) :
    Counted k total ⟨(s.cache.add job.key 0 job.ttl).2, s.workers.set i ⟨job :: rest, true⟩,
      s.answers ++ []⟩ := by
  have hcount := s.cache.count_add_zero job.key k job.ttl
  have hmem := List.mem_of_getElem? hi
  have hlive : job.key = k ∨ (s.cache.live k).isSome = true →
      ((s.cache.add job.key 0 job.ttl).2.live k).isSome = true := by
    intro hwhich
    by_cases hkey : job.key = k
    · subst hkey
      exact s.cache.live_add job.key 0 (h.lasts _ hmem job (by simp) rfl)
    · rcases hwhich with hkey' | hlive
      · exact absurd hkey' hkey
      · rw [s.cache.live_add_of_ne 0 job.ttl (Ne.symm hkey)]
        exact hlive
  refine h.replace hi ?_ ?_ ?_ ?_ ?_ ?_
  · simp [hcount]
  · rw [hcount]
    rfl
  · exact Nat.le_of_eq hcount.symm
  · exact fun hold => hlive (.inr hold)
  · rintro ⟨-, job', rest', hjobs, hkey⟩
    obtain ⟨rfl, rfl⟩ := List.cons.inj hjobs
    exact hlive (.inl hkey)
  · exact List.Subset.refl _

/-- An increment of the key answers the next count. -/
theorem Counted.incr (h : Counted k total s) {i : ℕ} {job : Job κ} {rest : List (Job κ)}
    {count : ℕ} {cache : Cache κ} (hi : s.workers[i]? = some ⟨job :: rest, true⟩)
    (hincr : s.cache.incr job.key = some (count, cache)) :
    Counted k total ⟨cache, s.workers.set i ⟨rest, false⟩,
      s.answers ++ [(job.key, some count)]⟩ := by
  have hnot : ¬Worker.SeededOn k (⟨rest, false⟩ : Worker κ) := fun hseeded =>
    absurd hseeded.1 Bool.false_ne_true
  by_cases hkey : job.key = k
  · subst hkey
    have hlive : (s.cache.live job.key).isSome = true :=
      h.live _ (List.mem_of_getElem? hi) ⟨rfl, job, rest, rfl, rfl⟩
    obtain ⟨cache', hincr', -, hcount, hlive', -⟩ := Cache.incr_of_live hlive
    obtain ⟨rfl, rfl⟩ : s.cache.count job.key + 1 = count ∧ cache' = cache := by
      simpa [hincr'] using hincr
    refine h.replace hi ?_ ?_ ?_ ?_ ?_ ?_
    · simp [hcount, Nat.add_comm]
    · simp only [hcount, Worker.left, List.countP_cons, decide_true, if_true]
      omega
    · omega
    · exact fun _ => hlive'
    · exact fun hseeded => absurd hseeded hnot
    · exact List.subset_cons_self _ _
  · have hother : cache.live k = s.cache.live k := Cache.live_incr_of_ne hincr (Ne.symm hkey)
    have hcount : cache.count k = s.cache.count k := by
      rw [Cache.count, Cache.count, Cache.get, Cache.get, hother]
    refine h.replace hi ?_ ?_ ?_ ?_ ?_ ?_
    · simp [hkey, hcount]
    · simp [hcount, Worker.left, hkey]
    · exact Nat.le_of_eq hcount.symm
    · exact fun hlive => hother ▸ hlive
    · exact fun hseeded => absurd hseeded hnot
    · exact List.subset_cons_self _ _

/-- An increment that fails is none of the key. -/
theorem Counted.miss (h : Counted k total s) {i : ℕ} {job : Job κ} {rest : List (Job κ)}
    (hi : s.workers[i]? = some ⟨job :: rest, true⟩) (hincr : s.cache.incr job.key = none) :
    Counted k total ⟨s.cache, s.workers.set i ⟨rest, false⟩,
      s.answers ++ [(job.key, none)]⟩ := by
  have hkey : job.key ≠ k := by
    rintro rfl
    have hlive : (s.cache.live job.key).isSome = true :=
      h.live _ (List.mem_of_getElem? hi) ⟨rfl, job, rest, rfl, rfl⟩
    rw [(s.cache.incr_eq_none_iff job.key).mp hincr] at hlive
    exact absurd hlive (by decide)
  refine h.replace hi ?_ ?_ ?_ ?_ ?_ ?_
  · simp [hkey]
  · simp [Worker.left, hkey]
  · exact Nat.le_refl _
  · exact id
  · exact fun hseeded => absurd hseeded.1 Bool.false_ne_true
  · exact List.subset_cons_self _ _

/-- Every step that does not make the key expire keeps the invariant. -/
theorem Counted.takeTurn {turn : Turn} {t : State κ} (h : Counted k total s)
    (hkeeps : keepsKey k s turn = true) (hstep : takeTurn s turn = some t) :
    Counted k total t := by
  cases turn with
  | worker i =>
    obtain ⟨⟨jobs, seeded⟩, hi, rfl⟩ := Option.map_eq_some_iff.mp hstep
    cases jobs with
    | nil =>
      refine h.replace hi (by simp) rfl (Nat.le_refl _) id ?_ (List.Subset.refl _)
      rintro ⟨-, job, rest, hjobs, -⟩
      exact absurd hjobs (by simp)
    | cons job rest =>
      cases seeded with
      | false => exact h.seed hi
      | true =>
        simp only [advance]
        cases hincr : s.cache.incr job.key with
        | some pair => exact h.incr hi hincr
        | none => exact h.miss hi hincr
  | wait seconds =>
    obtain rfl := Option.some.inj hstep
    have hwindow : ∀ e, s.cache.live k = some e → s.cache.now + seconds < e.expires := by
      intro e he
      simpa [keepsKey, he] using hkeeps
    have hcount := Cache.count_tick hwindow
    have hlive := Cache.live_tick hwindow
    constructor
    · exact h.answers.trans (by rw [hcount])
    · exact (congrArg (· + s.left k) hcount).trans h.balance
    · intro worker hworker hseeded
      rw [hlive]
      exact h.live worker hworker hseeded
    · exact h.lasts

/-! ## Whole runs -/

/-- Along every run in which the key does not expire the increments of the key answer `1`, `2`, …
up to the number of those done. -/
theorem counted {t : State κ} (hrun : WindowRun k s t) (h : Opening k s) :
    Counted k (s.left k) t :=
  invariant hrun h.counted fun _ _ _ hcounted hkeeps hstep => hcounted.takeTurn hkeeps hstep

end Steps

/-- A positive number is one of `1`, …, `n` once when it is at most `n`, and never otherwise. -/
theorem count_threshold {threshold : ℕ} (h : 0 < threshold) (n : ℕ) :
    ((List.range' 1 n).map some).count (some threshold) = if threshold ≤ n then 1 else 0 := by
  rw [List.count_map_of_injective _ _ (fun _ _ => Option.some.inj), List.count_range_1']
  have hbounds : 1 ≤ threshold ∧ threshold < 1 + n ↔ threshold ≤ n := by omega
  simp only [hbounds]

end SharedCount
