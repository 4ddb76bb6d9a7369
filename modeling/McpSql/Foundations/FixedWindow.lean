import Mathlib.Logic.Function.Basic
import Mathlib.Data.Nat.Notation

/-!
# Counters that expire

A cache of counters with a time to live and a clock.  `add` seeds a key that is not live and leaves
a live one alone, `incr` counts up a live key and keeps its expiry, so a key that is only touched
by these two counts the increments of one window that starts with its seed.
-/

namespace FixedWindow

/-- A counter and the moment it expires. -/
structure Entry where
  value : ℕ
  expires : ℕ
  deriving DecidableEq

/-- A cache: the time and the stored counters. -/
structure Cache (κ : Type) where
  now : ℕ
  entries : κ → Option Entry

namespace Cache

variable {κ : Type}

/-- A cache with nothing in it. -/
def empty (now : ℕ) : Cache κ := ⟨now, fun _ => none⟩

/-- The counter of a key that has not expired. -/
def live (c : Cache κ) (k : κ) : Option Entry := (c.entries k).filter fun e => c.now < e.expires

/-- The value of a live key. -/
def get (c : Cache κ) (k : κ) : Option ℕ := (c.live k).map Entry.value

/-- The value of a key, `0` when it is not live. -/
def count (c : Cache κ) (k : κ) : ℕ := (c.get k).getD 0

/-- A live key has not expired. -/
theorem expires_of_live {c : Cache κ} {k : κ} {e : Entry} (h : c.live k = some e) :
    c.now < e.expires := by
  unfold live at h
  obtain ⟨-, hlive⟩ := Option.filter_eq_some_iff.mp h
  simpa using hlive

variable [DecidableEq κ]

/-- Store a counter under a key. -/
def store (c : Cache κ) (k : κ) (e : Entry) : Cache κ :=
  { c with entries := Function.update c.entries k (some e) }

/-- Seed a key that is not live; the answer says whether it was. -/
def add (c : Cache κ) (k : κ) (value ttl : ℕ) : Bool × Cache κ :=
  match c.live k with
  | some _ => (false, c)
  | none => (true, c.store k ⟨value, c.now + ttl⟩)

/-- Count up a live key; `none` when it is not live. -/
def incr (c : Cache κ) (k : κ) : Option (ℕ × Cache κ) :=
  (c.live k).map fun e => (e.value + 1, c.store k ⟨e.value + 1, e.expires⟩)

/-- Let time pass. -/
def tick (c : Cache κ) (d : ℕ) : Cache κ := { c with now := c.now + d }

@[simp] theorem now_store (c : Cache κ) (k : κ) (e : Entry) : (c.store k e).now = c.now := rfl

theorem live_store (c : Cache κ) (k k' : κ) (e : Entry) :
    (c.store k e).live k' =
      if k' = k then (some e).filter (fun e => c.now < e.expires) else c.live k' := by
  unfold live store
  by_cases h : k' = k
  · subst h
    simp
  · simp [h]

/-- The stored counter is live when its expiry lies ahead. -/
theorem live_store_self (c : Cache κ) (k : κ) (e : Entry) (h : c.now < e.expires) :
    (c.store k e).live k = some e := by
  rw [live_store, if_pos rfl]
  simp [h]

/-- Another key is left alone. -/
theorem live_store_of_ne (c : Cache κ) {k k' : κ} (e : Entry) (h : k' ≠ k) :
    (c.store k e).live k' = c.live k' := by
  rw [live_store, if_neg h]

/-- Seeding changes no count: a fresh key starts at the seed `0`. -/
theorem count_add_zero (c : Cache κ) (k k' : κ) (ttl : ℕ) :
    (c.add k 0 ttl).2.count k' = c.count k' := by
  unfold add
  cases hlive : c.live k with
  | some e => rfl
  | none =>
    by_cases h : k' = k
    · subst h
      simp only [count, get, live_store, if_pos, hlive]
      by_cases httl : c.now < c.now + ttl
      · simp [Option.filter, httl]
      · simp [Option.filter, httl]
    · simp only [count, get, live_store_of_ne c _ h]

/-- Seeding touches its own key only. -/
theorem entries_add_of_ne (c : Cache κ) {k k' : κ} (value ttl : ℕ) (h : k' ≠ k) :
    (c.add k value ttl).2.entries k' = c.entries k' := by
  unfold add
  cases c.live k with
  | some e => rfl
  | none => exact Function.update_of_ne h _ _

/-- After seeding with a positive time to live the key is live. -/
theorem live_add (c : Cache κ) (k : κ) (value : ℕ) {ttl : ℕ} (h : 0 < ttl) :
    ((c.add k value ttl).2.live k).isSome = true := by
  unfold add
  cases hlive : c.live k with
  | some e => simp [hlive]
  | none => rw [live_store_self _ _ _ (by simp only; omega)]; rfl

/-- Seeding leaves the counters of the other keys alone. -/
theorem live_add_of_ne (c : Cache κ) {k k' : κ} (value ttl : ℕ) (h : k' ≠ k) :
    (c.add k value ttl).2.live k' = c.live k' := by
  have hnow : (c.add k value ttl).2.now = c.now := by
    unfold add
    cases c.live k with
    | some e => rfl
    | none => rfl
  unfold live
  rw [entries_add_of_ne c value ttl h, hnow]

omit [DecidableEq κ] in
/-- A wait that expires no counter of the key leaves the key alone. -/
theorem live_tick {c : Cache κ} {k : κ} {d : ℕ}
    (h : ∀ e, c.live k = some e → c.now + d < e.expires) : (c.tick d).live k = c.live k := by
  unfold live at h ⊢
  cases hentry : c.entries k with
  | none => simp [tick, hentry]
  | some e =>
    have hwindow := h e
    by_cases hnow : c.now < e.expires
    · have hlater : c.now + d < e.expires := hwindow (by simp [hentry, hnow])
      simp [tick, hentry, Option.filter_some, hnow, hlater]
    · have hlater : ¬c.now + d < e.expires := by omega
      simp [tick, hentry, Option.filter_some, hnow, hlater]

omit [DecidableEq κ] in
/-- A wait that expires no counter of the key changes no count. -/
theorem count_tick {c : Cache κ} {k : κ} {d : ℕ}
    (h : ∀ e, c.live k = some e → c.now + d < e.expires) : (c.tick d).count k = c.count k := by
  rw [count, count, get, get, live_tick h]

/-- Counting up fails when the key is not live. -/
theorem incr_eq_none_iff (c : Cache κ) (k : κ) : c.incr k = none ↔ c.live k = none := by
  unfold incr
  exact Option.map_eq_none_iff

/-- Counting up touches its own key only. -/
theorem live_incr_of_ne {c c' : Cache κ} {k k' : κ} {n : ℕ} (h : c.incr k = some (n, c'))
    (hne : k' ≠ k) : c'.live k' = c.live k' := by
  obtain ⟨e, -, he⟩ := Option.map_eq_some_iff.mp h
  obtain rfl : c.store k ⟨e.value + 1, e.expires⟩ = c' := congrArg Prod.snd he
  exact live_store_of_ne c _ hne

/-- Counting up a live key raises its count by one. -/
theorem incr_of_live {c : Cache κ} {k : κ} (h : (c.live k).isSome = true) :
    ∃ c', c.incr k = some (c.count k + 1, c') ∧ c'.now = c.now ∧
      c'.count k = c.count k + 1 ∧ (c'.live k).isSome = true ∧
      ∀ k', k' ≠ k → c'.live k' = c.live k' := by
  obtain ⟨e, he⟩ := Option.isSome_iff_exists.mp h
  have hcount : c.count k = e.value := by simp [count, get, he]
  have hexp := expires_of_live he
  refine ⟨c.store k ⟨e.value + 1, e.expires⟩, by simp [incr, he, hcount], rfl, ?_, ?_, ?_⟩
  · simp [count, get, live_store_self c k ⟨e.value + 1, e.expires⟩ hexp, he]
  · rw [live_store_self c k ⟨e.value + 1, e.expires⟩ hexp]
    rfl
  · intro k' hne
    exact live_store_of_ne c _ hne

@[simp] theorem now_add (c : Cache κ) (k : κ) (value ttl : ℕ) : (c.add k value ttl).2.now = c.now := by
  unfold add
  cases c.live k with
  | some e => rfl
  | none => rfl

/-- Seeding and counting up raises the count of the key by one and leaves all others alone. -/
theorem incr_add (c : Cache κ) (k : κ) {ttl : ℕ} (h : 0 < ttl) :
    ∃ c', (c.add k 0 ttl).2.incr k = some (c.count k + 1, c') ∧ c'.now = c.now ∧
      c'.count k = c.count k + 1 ∧ ∀ k', k' ≠ k → c'.count k' = c.count k' := by
  obtain ⟨c', hincr, hnow, hcount, -, hother⟩ := incr_of_live (live_add c k 0 h)
  rw [count_add_zero] at hincr hcount
  refine ⟨c', hincr, hnow.trans (now_add c k 0 ttl), hcount, fun k' hne => ?_⟩
  rw [count, get, hother k' hne]
  exact count_add_zero c k k' ttl

end Cache

end FixedWindow
