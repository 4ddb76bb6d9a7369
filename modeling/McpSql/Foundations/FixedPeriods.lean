import McpSql.Foundations.FixedWindow
import Mathlib.Data.List.Induction

/-!
# Periods of attempts

What a counter with a fixed window is for: the attempts of a key fall into periods, each of which
begins with an attempt made after the one before has ended, and lasts for the window.  A counter that
is seeded and counted up at every attempt holds the attempts of the period that is running, and
expires with it.
-/

namespace FixedWindow

/-- A period: when it began, and when its attempts were made, the first one included. -/
structure Period where
  start : ℕ
  attempts : List ℕ

/-- The period of an attempt: the one that is running, or a new one. -/
def nextPeriod (window : ℕ) (last : Option Period) (t : ℕ) : Period :=
  match last with
  | some p => if t < p.start + window then { p with attempts := p.attempts ++ [t] } else ⟨t, [t]⟩
  | none => ⟨t, [t]⟩

/-- The last period of attempts made at these times. -/
def lastPeriod (window : ℕ) (times : List ℕ) : Option Period :=
  times.foldl (fun last t => some (nextPeriod window last t)) none

/-- A period is made of the last attempts, all of them within the window of the first. -/
structure IsPeriod (window : ℕ) (times : List ℕ) (p : Period) : Prop where
  suffix : p.attempts <:+ times
  first : p.attempts.head? = some p.start
  within : ∀ t ∈ p.attempts, p.start ≤ t ∧ t < p.start + window

section Periods

variable {window : ℕ} {times : List ℕ}

theorem lastPeriod_snoc (t : ℕ) :
    lastPeriod window (times ++ [t]) = some (nextPeriod window (lastPeriod window times) t) := by
  unfold lastPeriod
  rw [List.foldl_append, List.foldl_cons, List.foldl_nil]

/-- An attempt after the first goes on with the running period or begins a new one. -/
theorem nextPeriod_some (p : Period) (t : ℕ) :
    (t < p.start + window ∧ nextPeriod window (some p) t = ⟨p.start, p.attempts ++ [t]⟩) ∨
      (p.start + window ≤ t ∧ nextPeriod window (some p) t = ⟨t, [t]⟩) := by
  unfold nextPeriod
  rcases Nat.lt_or_ge t (p.start + window) with hrunning | hover
  · exact Or.inl ⟨hrunning, by simp [hrunning]⟩
  · exact Or.inr ⟨hover, by simp [Nat.not_lt.mpr hover]⟩

theorem isPeriod_singleton (h : 0 < window) (times : List ℕ) (t : ℕ) :
    IsPeriod window (times ++ [t]) ⟨t, [t]⟩ := by
  refine ⟨List.suffix_append _ _, rfl, ?_⟩
  intro s hs
  rw [List.mem_singleton.mp hs]
  exact ⟨Nat.le_refl t, Nat.lt_add_of_pos_right h⟩

/-- The last period of ordered attempts is a period. -/
theorem isPeriod_lastPeriod (h : 0 < window) (hsorted : times.Pairwise (· ≤ ·)) {p : Period}
    (hp : lastPeriod window times = some p) : IsPeriod window times p := by
  induction times using List.reverseRecOn generalizing p with
  | nil => simp [lastPeriod] at hp
  | append_singleton times t ih =>
    rw [lastPeriod_snoc] at hp
    obtain rfl := Option.some.inj hp
    obtain ⟨hbefore, -, hlast⟩ := List.pairwise_append.mp hsorted
    rcases hq : lastPeriod window times with _ | q
    · exact isPeriod_singleton h times t
    · obtain ⟨hsuffix, hfirst, hwithin⟩ := ih hbefore hq
      rcases nextPeriod_some q t with ⟨hrunning, hattempt⟩ | ⟨-, hattempt⟩
      · rw [hattempt]
        have hstart : q.start ∈ times := hsuffix.subset (List.mem_of_head? hfirst)
        refine ⟨?_, ?_, ?_⟩
        · obtain ⟨front, rfl⟩ := hsuffix
          exact ⟨front, by rw [List.append_assoc]⟩
        · rw [List.head?_append, hfirst]
          rfl
        · intro s hs
          rcases List.mem_append.mp hs with hs | hs
          · exact hwithin s hs
          · rw [List.mem_singleton.mp hs]
            exact ⟨hlast q.start hstart t (List.mem_singleton_self t), hrunning⟩
      · rw [hattempt]
        exact isPeriod_singleton h times t

/-- Later attempts leave the start of the period alone, or begin one after its end. -/
theorem lastPeriod_append {p : Period} (hp : lastPeriod window times = some p) (more : List ℕ) :
    ∃ q, lastPeriod window (times ++ more) = some q ∧
      (q.start = p.start ∨ p.start + window ≤ q.start) := by
  induction more using List.reverseRecOn with
  | nil =>
    rw [List.append_nil]
    exact ⟨p, hp, Or.inl rfl⟩
  | append_singleton more t ih =>
    obtain ⟨q, hq, hstart⟩ := ih
    rw [← List.append_assoc, lastPeriod_snoc, hq]
    rcases nextPeriod_some q t with ⟨-, hattempt⟩ | ⟨hover, hattempt⟩
    · rw [hattempt]
      exact ⟨_, rfl, hstart⟩
    · rw [hattempt]
      refine ⟨_, rfl, Or.inr ?_⟩
      show p.start + window ≤ t
      omega

end Periods

/-! ## The counter of a key -/

/-- The counter of a period that is running. -/
def Period.entry (window now : ℕ) (p : Period) : Option Entry :=
  if now < p.start + window then some ⟨p.attempts.length, p.start + window⟩ else none

/-- The counter of a key holds the attempts that were made at these times. -/
structure Tracks {κ : Type} (window : ℕ) (c : Cache κ) (k : κ) (times : List ℕ) : Prop where
  live : c.live k = (lastPeriod window times).bind (Period.entry window c.now)
  sorted : times.Pairwise (· ≤ ·)
  past : ∀ t ∈ times, t ≤ c.now

section Counter

variable {κ : Type} {window : ℕ} {c c' : Cache κ} {k : κ} {times : List ℕ}

/-- No attempts, no counter. -/
theorem tracks_nil (h : c.live k = none) : Tracks window c k [] :=
  ⟨h, .nil, by simp⟩

/-- What leaves the counter and the clock alone. -/
theorem Tracks.congr (h : Tracks window c k times) (hlive : c'.live k = c.live k)
    (hnow : c'.now = c.now) : Tracks window c' k times := by
  refine ⟨?_, h.sorted, ?_⟩
  · rw [hlive, hnow]
    exact h.live
  · rw [hnow]
    exact h.past

/-- Time takes away the counters that expire. -/
theorem Cache.live_tick_eq (c : Cache κ) (k : κ) (d : ℕ) :
    (c.tick d).live k = (c.live k).filter fun e => c.now + d < e.expires := by
  have hexpired : ∀ e : Entry, (decide (c.now < e.expires) && decide (c.now + d < e.expires)) =
      decide (c.now + d < e.expires) := by
    intro e
    rw [← Bool.decide_and]
    congr 1
    apply propext
    omega
  unfold Cache.live Cache.tick
  simp only [Option.filter_filter, hexpired]

/-- Time passes for the counter as it does for the period. -/
theorem Tracks.tick (h : Tracks window c k times) (d : ℕ) : Tracks window (c.tick d) k times := by
  refine ⟨?_, h.sorted, fun t ht => Nat.le_trans (h.past t ht) (Nat.le_add_right _ _)⟩
  have hnow : (c.tick d).now = c.now + d := rfl
  rw [Cache.live_tick_eq, h.live, hnow]
  rcases lastPeriod window times with _ | p
  · rfl
  · simp only [Option.bind_some, Period.entry]
    by_cases hlater : c.now + d < p.start + window
    · have hrunning : c.now < p.start + window := by omega
      simp [hlater, hrunning]
    · by_cases hrunning : c.now < p.start + window
      · simp [hlater, hrunning, Option.filter_some]
      · simp [hlater, hrunning]

variable [DecidableEq κ]

/-- Seeding and counting up goes on with a live counter or begins a new one. -/
theorem Cache.live_of_incr_add {ttl n : ℕ} (h : 0 < ttl)
    (hincr : (c.add k 0 ttl).2.incr k = some (n, c')) :
    c'.now = c.now ∧
      c'.live k = some ((c.live k).elim ⟨1, c.now + ttl⟩ fun e => ⟨e.value + 1, e.expires⟩) := by
  obtain ⟨e, he, hpair⟩ := Option.map_eq_some_iff.mp hincr
  obtain rfl := (Prod.mk.inj hpair).2
  refine ⟨Cache.now_add c k 0 ttl, ?_⟩
  rw [Cache.live_store_self]
  · rcases hlive : c.live k with _ | e'
    · have hadd : (c.add k 0 ttl).2 = c.store k ⟨0, c.now + ttl⟩ := by
        unfold Cache.add
        rw [hlive]
      rw [hadd, Cache.live_store_self _ _ _ (Nat.lt_add_of_pos_right h)] at he
      obtain rfl := Option.some.inj he
      rfl
    · have hadd : (c.add k 0 ttl).2 = c := by
        unfold Cache.add
        rw [hlive]
      rw [hadd, hlive] at he
      obtain rfl := Option.some.inj he
      rfl
  · have hexpires : (c.add k 0 ttl).2.now < e.expires := Cache.expires_of_live he
    exact hexpires

/-- An attempt is counted. -/
theorem Tracks.count_up (h : Tracks window c k times) (hwindow : 0 < window) {n : ℕ}
    (hincr : (c.add k 0 window).2.incr k = some (n, c')) :
    Tracks window c' k (times ++ [c.now]) := by
  obtain ⟨hnow, hlive⟩ := Cache.live_of_incr_add hwindow hincr
  refine ⟨?_, ?_, ?_⟩
  · rw [hlive, h.live, hnow, lastPeriod_snoc]
    rcases lastPeriod window times with _ | p
    · simp [nextPeriod, Period.entry, hwindow]
    · have hcases : (c.now < p.start + window ∧ _) ∨ (p.start + window ≤ c.now ∧ _) :=
        nextPeriod_some p c.now
      rcases hcases with ⟨hrunning, hattempt⟩ | ⟨hover, hattempt⟩
      · simp [hattempt, Period.entry, hrunning]
      · have hover' : ¬c.now < p.start + window := Nat.not_lt.mpr hover
        simp [hattempt, Period.entry, hover', hwindow]
  · refine List.pairwise_append.mpr ⟨h.sorted, List.pairwise_singleton _ _, ?_⟩
    intro s hs t ht
    rw [List.mem_singleton.mp ht]
    exact h.past s hs
  · intro t ht
    rw [hnow]
    rcases List.mem_append.mp ht with ht | ht
    · exact h.past t ht
    · exact Nat.le_of_eq (List.mem_singleton.mp ht)

/-! ## What a counter shows -/

omit [DecidableEq κ]

/-- A counter that is not at zero counts a period that is running. -/
theorem Tracks.running (h : Tracks window c k times) (hwindow : 0 < window) {threshold : ℕ}
    (hpos : 0 < threshold) (hcount : threshold ≤ c.count k) :
    ∃ p, lastPeriod window times = some p ∧ IsPeriod window times p ∧
      threshold ≤ p.attempts.length ∧ p.start ≤ c.now ∧ c.now < p.start + window := by
  have hlive := h.live
  unfold Cache.count Cache.get at hcount
  rw [hlive] at hcount
  rcases hp : lastPeriod window times with _ | p
  · simp [hp] at hcount
    omega
  · have hperiod := isPeriod_lastPeriod hwindow h.sorted hp
    have hstart : p.start ∈ times := hperiod.suffix.subset (List.mem_of_head? hperiod.first)
    by_cases hrunning : c.now < p.start + window
    · refine ⟨p, rfl, hperiod, ?_, h.past _ hstart, hrunning⟩
      simpa [hp, Period.entry, hrunning] using hcount
    · simp [hp, Period.entry, hrunning] at hcount
      omega

/-- After the end of a period the counter holds none of its attempts. -/
theorem Tracks.renewed {more : List ℕ} (h : Tracks window c k times)
    (h' : Tracks window c' k (times ++ more)) (hwindow : 0 < window) {threshold : ℕ}
    (hpos : 0 < threshold) {p : Period} (hp : lastPeriod window times = some p)
    (hrunning : c.now < p.start + window) (hover : p.start + window ≤ c'.now)
    (hcount : threshold ≤ c'.count k) :
    threshold ≤ (more.filter fun t => p.start + window ≤ t).length := by
  obtain ⟨q, hq, hperiod, hattempts, -, hrunning'⟩ := h'.running hwindow hpos hcount
  obtain ⟨q', hq', hstart⟩ := lastPeriod_append hp more
  obtain rfl : q' = q := Option.some.inj (hq'.symm.trans hq)
  have hbegun : p.start + window ≤ q'.start := by
    rcases hstart with hsame | hlater
    · omega
    · exact hlater
  -- the attempts of the new period are among those made after the end of the old one
  have hold : times.filter (fun t => p.start + window ≤ t) = [] := by
    rw [List.filter_eq_nil_iff]
    intro t ht
    have hpast := h.past t ht
    simp only [decide_eq_true_eq]
    omega
  have hall : ∀ t ∈ q'.attempts, decide (p.start + window ≤ t) = true := by
    intro t ht
    have hwithin := (hperiod.within t ht).1
    rw [decide_eq_true_eq]
    omega
  have hsub := hperiod.suffix.sublist.filter fun t => p.start + window ≤ t
  rw [List.filter_append, hold, List.nil_append, List.filter_eq_self.mpr hall] at hsub
  exact Nat.le_trans hattempts hsub.length_le

end Counter

end FixedWindow
