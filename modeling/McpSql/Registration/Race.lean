import McpSql.Foundations.GuardedRun
import McpSql.Registration.Register
import Mathlib.Logic.Function.Iterate

/-!
# Concurrent registrations

Requests of one IP interleaved at the atomic steps of `register_client` on the shared state: the
read of `is_ip_blocked`, the insert, `cache.add` and `cache.incr`.  A request that passes the check
is not counted before its last step, so the bound on rows per window needs the requests between
their check and their count to be counted in as well.
-/

namespace McpSql

open Python PyStr Effect FixedWindow GuardedRun

/-! ## One request -/

/-- How far a request has come. -/
inductive Phase where
  | ready
  | passed
  | created
  | seeded
  | finished
  deriving DecidableEq, Repr

/-- A valid registration request under way. -/
structure InFlight where
  env : RegisterEnv
  registration : Registration
  phase : Phase

/-- `record_attempt` once the counter is seeded. -/
def countAttempt (settings : Settings) (ip : PyStr) : Py ℕ := do
  let count ← catching isOutage
    (some <$> cacheIncr healthyCache .countIncr (ipKey (lit "register") ip))
    (fun _ => attemptFailed ip (lit "register"))
  reportAttempt ip (lit "register") settings.badTokenIpWindowSeconds settings.badTokenIpThreshold
    count

/-- The next atomic step of a request, and the phase it leads to. -/
def nextStep (settings : Settings) (ip : PyStr) (request : InFlight) : Py Phase :=
  match request.phase with
  | .ready => do
    if ← isIpBlocked healthyCache ip (lit "register") settings.badTokenIpThreshold then
      return .finished
    return .passed
  | .passed => do
    createApplication request.env
      (applicationRow (newClientId settings request.env) request.registration)
    return .created
  | .created => do
    let _ ← cacheAdd healthyCache .countAdd (ipKey (lit "register") ip) 0
      settings.badTokenIpWindowSeconds
    return .seeded
  | .seeded => do
    let _ ← countAttempt settings ip
    return .finished
  | .finished => return .finished

/-- A request and the state after its next step; one that raises is over. -/
def advance (settings : Settings) (ip : PyStr) (request : InFlight) (w : World) :
    InFlight × World :=
  match (nextStep settings ip request).run w with
  | .ok phase w' => ({ request with phase := phase }, w')
  | .error _ w' => ({ request with phase := .finished }, w')

/-! ## Interleavings -/

/-- The shared state and the requests of one IP. -/
structure Arrivals where
  world : World
  requests : List InFlight

/-- What happens next: a request takes its next step, or time passes. -/
inductive Turn where
  | request (i : ℕ)
  | wait (seconds : ℕ)
  deriving DecidableEq, Repr

/-- One step of the system. -/
def takeTurn (settings : Settings) (ip : PyStr) (s : Arrivals) : Turn → Option Arrivals
  | .request i => s.requests[i]?.map fun r =>
      ⟨(advance settings ip r s.world).2, s.requests.set i (advance settings ip r s.world).1⟩
  | .wait seconds =>
      some { s with world := { s.world with cache := s.world.cache.tick seconds } }

/-- Requests that have not started yet, at the opening of a window. -/
structure Opening (ip : PyStr) (s : Arrivals) : Prop where
  ready : ∀ r ∈ s.requests, r.phase = .ready
  fresh : s.world.cache.live (ipKey (lit "register") ip) = none

/-- The turn falls into the window: no increment comes after the counter has expired, and no
waiting makes it expire. -/
def inWindow (ip : PyStr) (s : Arrivals) : Turn → Bool
  | .request i => s.requests[i]?.all fun r =>
      r.phase ≠ .seeded || (s.world.cache.live (ipKey (lit "register") ip)).isSome
  | .wait seconds => (s.world.cache.live (ipKey (lit "register") ip)).all fun e =>
      s.world.cache.now + seconds < e.expires

/-- The counter of the IP. -/
def Arrivals.count (ip : PyStr) (s : Arrivals) : ℕ :=
  s.world.cache.count (ipKey (lit "register") ip)

/-- A request past the check and not counted yet. -/
def InFlight.pending (r : InFlight) : Bool :=
  match r.phase with
  | .passed | .created | .seeded => true
  | .ready | .finished => false

/-- A request whose row is stored and not counted yet. -/
def InFlight.uncounted (r : InFlight) : Bool :=
  match r.phase with
  | .created | .seeded => true
  | .ready | .passed | .finished => false

/-- A check that finds the counter below the threshold finds it so with the pending requests
counted in. -/
def keepsPace (settings : Settings) (ip : PyStr) (s : Arrivals) : Turn → Bool
  | .request i => s.requests[i]?.all fun r =>
      r.phase ≠ .ready || settings.badTokenIpThreshold ≤ s.count ip ||
        s.count ip + s.requests.countP InFlight.pending < settings.badTokenIpThreshold
  | .wait _ => true

/-- The requests of an opening, interleaved inside the window. -/
def Interleaving (settings : Settings) (ip : PyStr) : Arrivals → Arrivals → Prop :=
  Run (fun s turn t => takeTurn settings ip s turn = some t) (fun s turn => inWindow ip s turn)

/-- An interleaving all of whose checks count the pending requests in. -/
def PacedInterleaving (settings : Settings) (ip : PyStr) : Arrivals → Arrivals → Prop :=
  Run (fun s turn t => takeTurn settings ip s turn = some t)
    (fun s turn => inWindow ip s turn && keepsPace settings ip s turn)

/-! ## What a step does -/

section Steps

variable (settings : Settings) (ip : PyStr)

/-- The check compares the counter with the threshold. -/
theorem advance_ready {r : InFlight} (w : World) (h : r.phase = .ready) :
    advance settings ip r w =
      ({ r with phase := if settings.badTokenIpThreshold ≤
          w.cache.count (ipKey (lit "register") ip) then .finished else .passed }, w) := by
  unfold advance nextStep
  simp only [h, EStateM.run_bind, run_isIpBlocked, healthyCache]
  by_cases hblocked : settings.badTokenIpThreshold ≤ w.cache.count (ipKey (lit "register") ip)
  · simp [hblocked]
  · simp [hblocked]

/-- The insert adds the row, or ends the request. -/
theorem advance_passed {r : InFlight} (w : World) (h : r.phase = .passed) :
    advance settings ip r w =
      match r.env.create (applicationRow (newClientId settings r.env) r.registration) with
      | .ok _ => ({ r with phase := .created }, { w with applications := w.applications ++
          [applicationRow (newClientId settings r.env) r.registration] })
      | .error _ => ({ r with phase := .finished }, w) := by
  unfold advance nextStep createApplication
  simp only [h]
  cases hcreate : r.env.create (applicationRow (newClientId settings r.env) r.registration) with
  | ok u => rfl
  | error e => rfl

/-- The seed leaves every count alone. -/
theorem advance_created {r : InFlight} (w : World) (h : r.phase = .created) :
    advance settings ip r w =
      ({ r with phase := .seeded }, { w with cache := (w.cache.add (ipKey (lit "register") ip) 0
        settings.badTokenIpWindowSeconds).2 }) := by
  unfold advance nextStep
  simp only [h]
  rfl

theorem world_advance_seeded {r : InFlight} (w : World) (h : r.phase = .seeded) :
    (advance settings ip r w).2 = finalState ((countAttempt settings ip).run w) := by
  unfold advance nextStep
  simp only [h, EStateM.run_bind]
  cases (countAttempt settings ip).run w <;> rfl

/-- Inside the window the increment counts the request. -/
theorem advance_seeded {r : InFlight} (w : World) (h : r.phase = .seeded)
    (hlive : (w.cache.live (ipKey (lit "register") ip)).isSome) :
    ∃ cache log, cache.count (ipKey (lit "register") ip) =
        w.cache.count (ipKey (lit "register") ip) + 1 ∧
      advance settings ip r w =
        ({ r with phase := .finished }, { w with cache := cache, log := log }) := by
  obtain ⟨cache, hincr, -, hcount, -⟩ := Cache.incr_of_live hlive
  have hrun : ∃ log, (countAttempt settings ip).run w =
      .ok (w.cache.count (ipKey (lit "register") ip) + 1)
        { w with cache := cache, log := log } := by
    unfold countAttempt
    simp only [EStateM.run_bind, run_catching, run_map, run_cacheIncr, healthyCache, hincr,
      reportAttempt]
    by_cases hreached : w.cache.count (ipKey (lit "register") ip) + 1 = settings.badTokenIpThreshold
    · simp [hreached]
    · simp [hreached]
  obtain ⟨log, hrun⟩ := hrun
  refine ⟨cache, log, hcount, ?_⟩
  unfold advance nextStep
  simp only [h, EStateM.run_bind, hrun, EStateM.run_pure]

theorem advance_finished {r : InFlight} (w : World) (h : r.phase = .finished) :
    advance settings ip r w = (r, w) := by
  obtain ⟨env, registration, phase⟩ := r
  obtain rfl : phase = .finished := h
  rfl

/-- With a cache that works `record_attempt` is the seed followed by the count. -/
theorem run_recordAttempt_healthy (w : World) :
    (recordAttempt healthyCache ip (lit "register") settings.badTokenIpWindowSeconds
        settings.badTokenIpThreshold).run w =
      (countAttempt settings ip).run { w with cache := (w.cache.add (ipKey (lit "register") ip) 0
        settings.badTokenIpWindowSeconds).2 } := rfl

/-- A request that takes its four steps in a row does what `register_client` does after
validation. -/
theorem advance_serial (env : RegisterEnv) (request : RegisterRequest)
    (registration : Registration) (hip : throttleIp request.remoteAddr = ip) (w : World) :
    ((fun p => advance settings ip p.1 p.2)^[4] (⟨env, registration, .ready⟩, w)).2 =
      finalState ((storeRegistration settings healthyCache env request registration).run w) := by
  have hcheck := advance_ready settings ip (r := ⟨env, registration, .ready⟩) w rfl
  have hover : ∀ w', advance settings ip ⟨env, registration, .finished⟩ w' =
      (⟨env, registration, .finished⟩, w') := fun w' => advance_finished settings ip w' rfl
  simp only [Function.iterate_succ, Function.iterate_zero, Function.comp_apply, id, hcheck]
  unfold storeRegistration
  simp only [hip, EStateM.run_bind, run_isIpBlocked, healthyCache]
  by_cases hblocked : settings.badTokenIpThreshold ≤ w.cache.count (ipKey (lit "register") ip)
  · simp [hblocked, hover]
  · have hinsert := advance_passed settings ip (r := ⟨env, registration, .passed⟩) w rfl
    simp only [hblocked, if_false, decide_false, Bool.false_eq_true, hinsert]
    unfold createAndCount createApplication
    cases hcreate : env.create (applicationRow (newClientId settings env) registration) with
    | error e => simp [hover]
    | ok u =>
      have hseed := fun w' =>
        advance_created settings ip (r := ⟨env, registration, .created⟩) w' rfl
      simp only [hseed]
      have hcount := run_recordAttempt_healthy settings ip { w with applications :=
        w.applications ++ [applicationRow (newClientId settings env) registration] }
      simp only [EStateM.run_bind, run_call_ok, EStateM.run_modify, hcount]
      rw [world_advance_seeded settings ip _ rfl]
      generalize (countAttempt settings ip).run _ = counted
      cases counted <;> rfl

end Steps

/-! ## The bound -/

/-- Replacing an element changes a count by what the two elements contribute. -/
theorem countP_set_add {α : Type} (p : α → Bool) {xs : List α} {i : ℕ} {x : α} (y : α)
    (h : xs[i]? = some x) :
    (xs.set i y).countP p + (if p x then 1 else 0) = xs.countP p + (if p y then 1 else 0) := by
  obtain ⟨hi, hx⟩ := List.getElem?_eq_some_iff.mp h
  have hle := List.boole_getElem_le_countP (p := p) hi
  rw [List.countP_set hi]
  rw [hx] at hle ⊢
  omega

/-- The rows of the window are the counted requests and those about to be counted, and there is
room for every pending request. -/
structure Paced (settings : Settings) (ip : PyStr) (base : ℕ) (s : Arrivals) : Prop where
  rows : s.world.applications.length =
    base + s.count ip + s.requests.countP InFlight.uncounted
  room : s.count ip + s.requests.countP InFlight.pending ≤ settings.badTokenIpThreshold

/-- A stored and uncounted row belongs to a pending request. -/
theorem countP_uncounted_le (requests : List InFlight) :
    requests.countP InFlight.uncounted ≤ requests.countP InFlight.pending := by
  refine List.countP_mono_left fun r _ h => ?_
  unfold InFlight.uncounted at h
  unfold InFlight.pending
  cases hphase : r.phase <;> simp_all

section Bound

variable {settings : Settings} {ip : PyStr} {base : ℕ} {s : Arrivals}

theorem Paced.opening (h : Opening ip s) :
    Paced settings ip s.world.applications.length s := by
  have hcount : s.count ip = 0 := by
    simp [Arrivals.count, Cache.count, Cache.get, h.fresh]
  have hpending : s.requests.countP InFlight.pending = 0 := by
    rw [List.countP_eq_zero]
    intro r hr
    simp [InFlight.pending, h.ready r hr]
  have huncounted := countP_uncounted_le s.requests
  constructor
  · omega
  · omega

/-- A request moves to its next phase: the invariant is kept when its row, its count and its
phase balance. -/
theorem Paced.replace {i : ℕ} {r r' : InFlight} {w' : World} (hinv : Paced settings ip base s)
    (hr : s.requests[i]? = some r)
    (hrows : w'.applications.length + s.count ip + (if r.uncounted then 1 else 0) =
      s.world.applications.length + w'.cache.count (ipKey (lit "register") ip) +
        (if r'.uncounted then 1 else 0))
    (hroom : w'.cache.count (ipKey (lit "register") ip) + s.requests.countP InFlight.pending +
        (if r'.pending then 1 else 0) ≤
      settings.badTokenIpThreshold + (if r.pending then 1 else 0)) :
    Paced settings ip base ⟨w', s.requests.set i r'⟩ := by
  have hpending := countP_set_add InFlight.pending r' hr
  have huncounted := countP_set_add InFlight.uncounted r' hr
  have hbefore := hinv.rows
  constructor
  · simp only [Arrivals.count] at hrows hbefore ⊢
    omega
  · simp only [Arrivals.count]
    omega

/-- A step of a request keeps the invariant. -/
theorem Paced.request {i : ℕ} {r : InFlight} (hinv : Paced settings ip base s)
    (hr : s.requests[i]? = some r) (hwindow : inWindow ip s (.request i) = true)
    (hpace : keepsPace settings ip s (.request i) = true) :
    Paced settings ip base ⟨(advance settings ip r s.world).2,
      s.requests.set i (advance settings ip r s.world).1⟩ := by
  have hroom := hinv.room
  simp only [Arrivals.count] at hroom
  simp only [inWindow, hr, Option.all_some] at hwindow
  simp only [keepsPace, hr, Option.all_some, Bool.or_eq_true, decide_eq_true_eq] at hpace
  cases hphase : r.phase with
  | ready =>
    rw [advance_ready settings ip s.world hphase]
    by_cases hblocked : settings.badTokenIpThreshold ≤
        s.world.cache.count (ipKey (lit "register") ip)
    · refine hinv.replace hr ?_ ?_
      · simp [InFlight.uncounted, hphase, hblocked, Arrivals.count]
      · simpa [InFlight.pending, hphase, hblocked] using hroom
    · have hfree : s.world.cache.count (ipKey (lit "register") ip) +
          s.requests.countP InFlight.pending < settings.badTokenIpThreshold := by
        rcases hpace with (hnot | hreached) | hfree
        · exact absurd hphase hnot
        · exact absurd hreached hblocked
        · exact hfree
      refine hinv.replace hr ?_ ?_
      · simp [InFlight.uncounted, hphase, hblocked, Arrivals.count]
      · simp [InFlight.pending, hphase, hblocked]
        omega
  | passed =>
    rw [advance_passed settings ip s.world hphase]
    split
    · refine hinv.replace hr ?_ ?_
      · simp [InFlight.uncounted, hphase, Arrivals.count]
        omega
      · simpa [InFlight.pending, hphase] using hroom
    · refine hinv.replace hr ?_ ?_
      · simp [InFlight.uncounted, hphase, Arrivals.count]
      · simp [InFlight.pending, hphase]
        omega
  | created =>
    rw [advance_created settings ip s.world hphase]
    refine hinv.replace hr ?_ ?_
    · simp [InFlight.uncounted, hphase, Arrivals.count, Cache.count_add_zero]
    · simpa [InFlight.pending, hphase, Cache.count_add_zero] using hroom
  | seeded =>
    have hlive : (s.world.cache.live (ipKey (lit "register") ip)).isSome = true := by
      simpa [hphase] using hwindow
    obtain ⟨cache, log, hcount, hstep⟩ := advance_seeded settings ip s.world hphase hlive
    rw [hstep]
    refine hinv.replace hr ?_ ?_
    · simp [InFlight.uncounted, hphase, Arrivals.count, hcount]
      omega
    · simp [InFlight.pending, hphase, hcount]
      omega
  | finished =>
    rw [advance_finished settings ip s.world hphase]
    refine hinv.replace hr ?_ ?_
    · simp [InFlight.uncounted, hphase, Arrivals.count]
    · simpa [InFlight.pending, hphase] using hroom

/-- Waiting inside the window changes no counter. -/
theorem Paced.wait {seconds : ℕ} (hinv : Paced settings ip base s)
    (hwindow : inWindow ip s (.wait seconds) = true) :
    Paced settings ip base
      { s with world := { s.world with cache := s.world.cache.tick seconds } } := by
  have hcount : (s.world.cache.tick seconds).count (ipKey (lit "register") ip) = s.count ip := by
    refine Cache.count_tick fun e he => ?_
    simpa [inWindow, he] using hwindow
  obtain ⟨hrows, hroom⟩ := hinv
  constructor
  · simpa only [Arrivals.count, hcount] using hrows
  · simpa only [Arrivals.count, hcount] using hroom

/-- The whole window: the invariant holds after every run that keeps pace. -/
theorem Paced.run {t : Arrivals} (hopening : Opening ip s)
    (hrun : PacedInterleaving settings ip s t) :
    Paced settings ip s.world.applications.length t := by
  refine invariant hrun (Paced.opening hopening) fun s turn t hinv hguard hstep => ?_
  obtain ⟨hwindow, hpace⟩ := Bool.and_eq_true_iff.mp hguard
  cases turn with
  | request i =>
    obtain ⟨r, hr, rfl⟩ := Option.map_eq_some_iff.mp hstep
    exact hinv.request hr hwindow hpace
  | wait seconds =>
    obtain rfl := Option.some.inj hstep
    exact hinv.wait hwindow

/-- The rows created since the opening of the window are at most the threshold. -/
def RowsBounded (settings : Settings) (s t : Arrivals) : Prop :=
  t.world.applications.length ≤ s.world.applications.length + settings.badTokenIpThreshold

theorem Paced.rowsBounded {t : Arrivals} (h : Paced settings ip s.world.applications.length t) :
    RowsBounded settings s t := by
  obtain ⟨hrows, hroom⟩ := h
  have huncounted := countP_uncounted_le t.requests
  unfold RowsBounded
  omega

/-- Requests served one after another stay within the threshold. -/
theorem rowsBounded_of_serial {t : Arrivals} (hopening : Opening ip s)
    (hrun : Run (fun s turn t => takeTurn settings ip s turn = some t)
      (fun s turn => inWindow ip s turn ∧ ∀ i r, turn = .request i → s.requests[i]? = some r →
        r.phase = .ready → s.requests.countP InFlight.pending = 0) s t) :
    RowsBounded settings s t := by
  have hpaced := Paced.run hopening (hrun.mono ?_)
  · exact hpaced.rowsBounded
  rintro s turn ⟨hwindow, hserial⟩
  refine Bool.and_eq_true_iff.mpr ⟨hwindow, ?_⟩
  cases turn with
  | request i =>
    cases hr : s.requests[i]? with
    | none => simp [keepsPace, hr]
    | some r =>
      have hidle := hserial i r rfl hr
      by_cases hready : r.phase = .ready
      · by_cases hblocked : settings.badTokenIpThreshold ≤ s.count ip
        · simp [keepsPace, hr, hblocked]
        · have hfree : s.count ip < settings.badTokenIpThreshold := by omega
          simp [keepsPace, hr, hidle hready, hfree]
      · simp [keepsPace, hr, hready]
  | wait seconds => rfl

end Bound

/-- An interleaving inside the window all of whose checks count the pending requests in creates at
most the threshold of rows. -/
theorem rows_bounded_of_keepsPace (settings : Settings) (ip : PyStr) (s t : Arrivals)
    (hopening : Opening ip s) (hrun : PacedInterleaving settings ip s t) :
    RowsBounded settings s t :=
  (Paced.run hopening hrun).rowsBounded

/-- A threshold of one row. -/
def oneRowSettings : Settings := { exampleSettings with badTokenIpThreshold := 1 }

/-- Two identical requests at the opening of a window. -/
def twoArrivals : Arrivals where
  world := emptyWorld
  requests := List.replicate 2
    ⟨exampleRegisterEnv, ⟨[lit "http://127.0.0.1:3456/"], .str (lit "client")⟩, .ready⟩

theorem opening_twoArrivals (ip : PyStr) : Opening ip twoArrivals where
  ready r hr := by
    obtain rfl := List.eq_of_mem_replicate hr
    rfl
  fresh := rfl

/-- A first request creates its row and is counted, and a second one finds the block. -/
theorem rows_bounded_of_keepsPace_serial : ∃ t : Arrivals,
    RowsBounded oneRowSettings twoArrivals t ∧
      t.requests.map InFlight.phase = [.finished, .finished] := by
  let turns := [Turn.request 0, .request 0, .request 0, .wait 60, .request 0, .request 1]
  have hphases : (replay (takeTurn oneRowSettings (lit "203.0.113.7"))
      (fun s turn => inWindow (lit "203.0.113.7") s turn &&
        keepsPace oneRowSettings (lit "203.0.113.7") s turn) turns twoArrivals).map
      (fun t => t.requests.map InFlight.phase) = some [.finished, .finished] := by decide
  obtain ⟨t, hreplay, hphases⟩ := Option.map_eq_some_iff.mp hphases
  exact ⟨t, rows_bounded_of_keepsPace _ _ _ _ (opening_twoArrivals _) (run_of_replay hreplay),
    hphases⟩

/-- Two requests that both read the counter before either counts create two rows. -/
theorem rows_not_always_bounded :
    ¬∀ (settings : Settings) (ip : PyStr) (s t : Arrivals), Opening ip s →
      Interleaving settings ip s t → RowsBounded settings s t := by
  intro hbounded
  let turns := [Turn.request 0, .request 1, .request 0, .request 1]
  have hrows : (replay (takeTurn oneRowSettings (lit "203.0.113.7"))
      (inWindow (lit "203.0.113.7")) turns twoArrivals).map
      (fun t => t.world.applications.length) = some 2 := by decide
  obtain ⟨t, hreplay, hrows⟩ := Option.map_eq_some_iff.mp hrows
  have hbound := hbounded _ _ _ _ (opening_twoArrivals _) (run_of_replay hreplay)
  unfold RowsBounded at hbound
  rw [hrows] at hbound
  exact absurd hbound (by decide)

end McpSql
