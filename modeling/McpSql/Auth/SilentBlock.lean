import McpSql.Auth.Issuance
import McpSql.Executor.CountOnce
import McpSql.Foundations.FixedPeriods
import McpSql.Registration.Register

/-!
# Silent blocks

The throttle over a whole run: checks and attempts of any IPs in any scopes, in any order, while the
clock moves.  The counter of an IP in a scope holds the attempts of the period that is running, so a
block comes from the attempts of one period and ends with it.
-/

namespace McpSql

open Python PyStr Effect FixedWindow

/-! ## Runs of the throttle -/

/-- A step of the throttle, or the clock. -/
inductive ThrottleStep where
  | check (scope : Scope) (ip : PyStr)
  | record (scope : Scope) (ip : PyStr)
  | wait (seconds : ℕ)
  deriving DecidableEq

/-- What a step does. -/
def ThrottleStep.perform (settings : Settings) (w : World) : ThrottleStep → World
  | check scope ip =>
    finalState ((isIpBlocked healthyCache ip scope.name settings.badTokenIpThreshold).run w)
  | record scope ip =>
    finalState ((recordAttempt healthyCache ip scope.name settings.badTokenIpWindowSeconds
      settings.badTokenIpThreshold).run w)
  | wait seconds => { w with cache := w.cache.tick seconds }

/-- A run. -/
def throttleRun (settings : Settings) (w : World) (steps : List ThrottleStep) : World :=
  steps.foldl (ThrottleStep.perform settings) w

/-- When the attempts of an IP in a scope are made, in a run that begins at a time. -/
def attemptTimes (scope : Scope) (ip : PyStr) : ℕ → List ThrottleStep → List ℕ
  | _, [] => []
  | now, .check _ _ :: rest => attemptTimes scope ip now rest
  | now, .record scope' ip' :: rest =>
    if scope' = scope ∧ ip' = ip then now :: attemptTimes scope ip now rest
    else attemptTimes scope ip now rest
  | now, .wait seconds :: rest => attemptTimes scope ip (now + seconds) rest

/-- `is_ip_blocked` answers that the IP is blocked in the scope. -/
def Blocked (settings : Settings) (scope : Scope) (ip : PyStr) (w : World) : Prop :=
  outcome ((isIpBlocked healthyCache ip scope.name settings.badTokenIpThreshold).run w) = .ok true

/-- The requests of an IP in a scope run one after another: each attempt follows a check of its own
request, which answered that the IP is not blocked.  At every step such a check may be open. -/
def OneAfterAnother (settings : Settings) (scope : Scope) (ip : PyStr) :
    Prop → World → List ThrottleStep → Prop
  | _, _, [] => True
  | checked, w, step :: rest =>
    (step = .record scope ip → checked) ∧
      OneAfterAnother settings scope ip
        (if step = .check scope ip then ¬Blocked settings scope ip w
          else if step = .record scope ip then False else checked)
        (step.perform settings w) rest

/-! ## What a step does to a counter -/

section Steps

variable {settings : Settings} {scope : Scope} {ip : PyStr} {w : World}

/-- A check compares the counter. -/
theorem blocked_iff : Blocked settings scope ip w ↔
    settings.badTokenIpThreshold ≤ w.cache.count (ipKey scope.name ip) := by
  unfold Blocked
  rw [run_isIpBlocked]
  simp [healthyCache]

/-- An attempt leaves the cache as its two calls do. -/
theorem cache_recordAttempt (scope : Scope) (ip : PyStr) {window : ℕ} (h : 0 < window)
    (threshold : ℕ) (w : World) :
    ∃ n c, (w.cache.add (ipKey scope.name ip) 0 window).2.incr (ipKey scope.name ip) = some (n, c) ∧
      (finalState ((recordAttempt healthyCache ip scope.name window threshold).run w)).cache = c := by
  obtain ⟨c, hincr, -⟩ := Cache.incr_add w.cache (ipKey scope.name ip) h
  refine ⟨_, c, hincr, ?_⟩
  unfold recordAttempt seedAndCount seedAndIncr
  simp only [EStateM.run_bind, run_catching, run_map, run_cacheAdd, run_cacheIncr, healthyCache,
    hincr]
  by_cases hreached : w.cache.count (ipKey scope.name ip) + 1 = threshold
  · simp [hreached, reportAttempt, emit]
  · simp [hreached, reportAttempt]

/-- A check changes nothing. -/
theorem perform_check (scope : Scope) (ip : PyStr) (w : World) :
    (ThrottleStep.check scope ip).perform settings w = w :=
  finalState_isIpBlocked healthyCache ip scope.name settings.badTokenIpThreshold w

/-- An attempt changes its counter by its two calls. -/
theorem cache_perform_record (scope : Scope) (ip : PyStr)
    (hwindow : 0 < settings.badTokenIpWindowSeconds) (w : World) :
    ∃ n c, (w.cache.add (ipKey scope.name ip) 0 settings.badTokenIpWindowSeconds).2.incr
        (ipKey scope.name ip) = some (n, c) ∧
      ((ThrottleStep.record scope ip).perform settings w).cache = c :=
  cache_recordAttempt scope ip hwindow settings.badTokenIpThreshold w

/-- The counters of different IPs or scopes have different keys. -/
theorem ipKey_ne_of_foreign {scope' : Scope} {ip' : PyStr} (h : ¬(scope' = scope ∧ ip' = ip)) :
    ipKey scope.name ip ≠ ipKey scope'.name ip' := by
  intro hkey
  obtain ⟨rfl, rfl⟩ := eq_of_ipKey_eq hkey
  exact h ⟨rfl, rfl⟩

/-- The times a step adds to the attempts of an IP in a scope. -/
theorem tracks_perform (hwindow : 0 < settings.badTokenIpWindowSeconds) {times : List ℕ}
    (h : Tracks settings.badTokenIpWindowSeconds w.cache (ipKey scope.name ip) times)
    (step : ThrottleStep) (rest : List ThrottleStep) :
    ∃ more, attemptTimes scope ip w.cache.now (step :: rest) =
        more ++ attemptTimes scope ip (step.perform settings w).cache.now rest ∧
      Tracks settings.badTokenIpWindowSeconds (step.perform settings w).cache
        (ipKey scope.name ip) (times ++ more) := by
  rcases step with ⟨scope', ip'⟩ | ⟨scope', ip'⟩ | seconds
  · rw [perform_check]
    exact ⟨[], rfl, by rwa [List.append_nil]⟩
  · obtain ⟨n, c, hincr, hperform⟩ := cache_perform_record scope' ip' hwindow w
    obtain ⟨hnow, -⟩ := Cache.live_of_incr_add hwindow hincr
    rw [hperform, hnow]
    by_cases hown : scope' = scope ∧ ip' = ip
    · obtain ⟨rfl, rfl⟩ := hown
      refine ⟨[w.cache.now], ?_, h.count_up hwindow hincr⟩
      rw [attemptTimes, if_pos ⟨rfl, rfl⟩]
      rfl
    · refine ⟨[], ?_, ?_⟩
      · rw [attemptTimes, if_neg hown]
        rfl
      · rw [List.append_nil]
        have hne := ipKey_ne_of_foreign hown
        apply h.congr _ hnow
        rw [Cache.live_incr_of_ne hincr hne, Cache.live_add_of_ne _ _ _ hne]
  · exact ⟨[], rfl, by rw [List.append_nil]; exact h.tick seconds⟩

/-- The counter holds the attempts of the whole run. -/
theorem tracks_throttleRun (hwindow : 0 < settings.badTokenIpWindowSeconds) {times : List ℕ}
    (h : Tracks settings.badTokenIpWindowSeconds w.cache (ipKey scope.name ip) times)
    (steps : List ThrottleStep) :
    Tracks settings.badTokenIpWindowSeconds (throttleRun settings w steps).cache
      (ipKey scope.name ip) (times ++ attemptTimes scope ip w.cache.now steps) := by
  induction steps generalizing w times with
  | nil =>
    rw [attemptTimes, List.append_nil]
    exact h
  | cons step rest ih =>
    obtain ⟨more, htimes, hstep⟩ := tracks_perform hwindow h step rest
    rw [htimes, ← List.append_assoc]
    exact ih hstep

/-! ### The clock -/

/-- How far a step moves the clock. -/
def ThrottleStep.seconds : ThrottleStep → ℕ
  | wait seconds => seconds
  | _ => 0

theorem now_perform (hwindow : 0 < settings.badTokenIpWindowSeconds) (step : ThrottleStep)
    (w : World) : (step.perform settings w).cache.now = w.cache.now + step.seconds := by
  rcases step with ⟨scope', ip'⟩ | ⟨scope', ip'⟩ | seconds
  · rw [perform_check]
    rfl
  · obtain ⟨n, c, hincr, hperform⟩ := cache_perform_record scope' ip' hwindow w
    rw [hperform]
    exact (Cache.live_of_incr_add hwindow hincr).1
  · rfl

/-- The clock at the end of a run. -/
theorem now_throttleRun (hwindow : 0 < settings.badTokenIpWindowSeconds)
    (steps : List ThrottleStep) (w : World) :
    (throttleRun settings w steps).cache.now =
      w.cache.now + (steps.map ThrottleStep.seconds).sum := by
  induction steps generalizing w with
  | nil => rfl
  | cons step rest ih =>
    have hrest : (throttleRun settings w (step :: rest)).cache.now =
        (throttleRun settings (step.perform settings w) rest).cache.now := rfl
    rw [hrest, ih, now_perform hwindow, List.map_cons, List.sum_cons, Nat.add_assoc]

/-- The times of a longer run are those of its parts. -/
theorem attemptTimes_append (now : ℕ) (steps later : List ThrottleStep) :
    attemptTimes scope ip now (steps ++ later) = attemptTimes scope ip now steps ++
      attemptTimes scope ip (now + (steps.map ThrottleStep.seconds).sum) later := by
  induction steps generalizing now with
  | nil => rfl
  | cons step rest ih =>
    rw [List.cons_append, List.map_cons, List.sum_cons]
    rcases step with ⟨scope', ip'⟩ | ⟨scope', ip'⟩ | seconds
    · rw [attemptTimes, attemptTimes, ih]
      simp [ThrottleStep.seconds]
    · by_cases hown : scope' = scope ∧ ip' = ip
      · rw [attemptTimes, attemptTimes, if_pos hown, if_pos hown, ih]
        simp [ThrottleStep.seconds]
      · rw [attemptTimes, attemptTimes, if_neg hown, if_neg hown, ih]
        simp [ThrottleStep.seconds]
    · rw [attemptTimes, attemptTimes, ih]
      simp [ThrottleStep.seconds, Nat.add_assoc]

/-! ### Requests one after another -/

/-- Only an attempt of its own counts up a counter, by one. -/
theorem count_perform (hwindow : 0 < settings.badTokenIpWindowSeconds) (step : ThrottleStep)
    (w : World) :
    (step.perform settings w).cache.count (ipKey scope.name ip) ≤
      w.cache.count (ipKey scope.name ip) + if step = .record scope ip then 1 else 0 := by
  rcases step with ⟨scope', ip'⟩ | ⟨scope', ip'⟩ | seconds
  · rw [perform_check]
    exact Nat.le_add_right _ _
  · obtain ⟨n, c, hincr, hperform⟩ := cache_perform_record scope' ip' hwindow w
    obtain ⟨c', hincr', -, hcount, hother⟩ :=
      Cache.incr_add w.cache (ipKey scope'.name ip') hwindow
    obtain rfl : c = c' := (Prod.mk.inj (Option.some.inj (hincr.symm.trans hincr'))).2
    rw [hperform]
    by_cases hown : scope' = scope ∧ ip' = ip
    · obtain ⟨rfl, rfl⟩ := hown
      rw [if_pos rfl]
      exact Nat.le_of_eq hcount
    · rw [hother _ (ipKey_ne_of_foreign hown)]
      exact Nat.le_add_right _ _
  · have hfilter := Cache.live_tick_eq w.cache (ipKey scope.name ip) seconds
    have hperform : (ThrottleStep.perform settings w (.wait seconds)).cache = w.cache.tick seconds :=
      rfl
    rw [hperform]
    unfold Cache.count Cache.get
    rw [hfilter]
    rcases w.cache.live (ipKey scope.name ip) with _ | e
    · simp
    · by_cases hlater : w.cache.now + seconds < e.expires
      · simp [Option.filter_some, hlater]
      · simp [Option.filter_some, hlater]

/-- An attempt that follows its check counts up a counter that is below the threshold. -/
theorem count_of_oneAfterAnother (hwindow : 0 < settings.badTokenIpWindowSeconds)
    {checked : Prop} {steps : List ThrottleStep}
    (hcount : w.cache.count (ipKey scope.name ip) ≤ settings.badTokenIpThreshold)
    (hchecked : checked → w.cache.count (ipKey scope.name ip) < settings.badTokenIpThreshold)
    (h : OneAfterAnother settings scope ip checked w steps) :
    (throttleRun settings w steps).cache.count (ipKey scope.name ip) ≤
      settings.badTokenIpThreshold := by
  induction steps generalizing checked w with
  | nil => exact hcount
  | cons step rest ih =>
    obtain ⟨hown, hrest⟩ := h
    have hstep : (step.perform settings w).cache.count (ipKey scope.name ip) ≤ _ :=
      count_perform hwindow step w
    by_cases hcheck : step = .check scope ip
    · rw [if_pos hcheck] at hrest
      rw [if_neg (by rw [hcheck]; simp)] at hstep
      apply ih (Nat.le_trans hstep hcount) _ hrest
      intro hopen
      rw [blocked_iff] at hopen
      omega
    · rw [if_neg hcheck] at hrest
      by_cases hrecord : step = .record scope ip
      · rw [if_pos hrecord] at hrest hstep
        have hbelow := hchecked (hown hrecord)
        exact ih (by omega) False.elim hrest
      · rw [if_neg hrecord] at hrest hstep
        exact ih (by omega) (fun hopen => Nat.lt_of_le_of_lt hstep (hchecked hopen)) hrest

end Steps

/-! ## What a block says -/

/-- The time at the end of a run. -/
def throttleClock (settings : Settings) (w : World) (steps : List ThrottleStep) : ℕ :=
  (throttleRun settings w steps).cache.now

/-- What a block of an IP in a scope promises at the end of a run. -/
structure SilentBlock (settings : Settings) (scope : Scope) (ip : PyStr) (w : World)
    (steps : List ThrottleStep) : Prop where
  /-- A block comes from attempts of one period, which is running; after its end there is no block
  without as many attempts made since. -/
  justified : Blocked settings scope ip (throttleRun settings w steps) →
    ∃ earlier start attempts, attemptTimes scope ip w.cache.now steps = earlier ++ start :: attempts ∧
      settings.badTokenIpThreshold ≤ (start :: attempts).length ∧
      (∀ t ∈ start :: attempts, start ≤ t ∧ t < start + settings.badTokenIpWindowSeconds) ∧
      start ≤ throttleClock settings w steps ∧
      throttleClock settings w steps < start + settings.badTokenIpWindowSeconds ∧
      ∀ later, start + settings.badTokenIpWindowSeconds ≤
          throttleClock settings w (steps ++ later) →
        Blocked settings scope ip (throttleRun settings w (steps ++ later)) →
        settings.badTokenIpThreshold ≤
          ((attemptTimes scope ip (throttleClock settings w steps) later).filter fun t =>
            start + settings.badTokenIpWindowSeconds ≤ t).length
  /-- An attempt of another IP or in another scope makes no difference. -/
  isolated : ∀ before after scope' ip', steps = before ++ after → ¬(scope' = scope ∧ ip' = ip) →
    (Blocked settings scope ip (throttleRun settings w (before ++ .record scope' ip' :: after)) ↔
      Blocked settings scope ip (throttleRun settings w steps))
  /-- The counter of requests that run one after another stays at the threshold. -/
  bounded : OneAfterAnother settings scope ip False w steps →
    (throttleRun settings w steps).cache.count (ipKey scope.name ip) ≤ settings.badTokenIpThreshold

/-- A period ends when its window does, whatever is attempted meanwhile. -/
theorem block_justified {settings : Settings} {scope : Scope} {ip : PyStr} {w : World}
    (hwindow : 0 < settings.badTokenIpWindowSeconds) (hthreshold : 0 < settings.badTokenIpThreshold)
    (hfresh : w.cache.live (ipKey scope.name ip) = none) {steps : List ThrottleStep}
    (hblocked : Blocked settings scope ip (throttleRun settings w steps)) :
    ∃ p, lastPeriod settings.badTokenIpWindowSeconds (attemptTimes scope ip w.cache.now steps) =
        some p ∧
      IsPeriod settings.badTokenIpWindowSeconds (attemptTimes scope ip w.cache.now steps) p ∧
      settings.badTokenIpThreshold ≤ p.attempts.length ∧
      p.start ≤ throttleClock settings w steps ∧
      throttleClock settings w steps < p.start + settings.badTokenIpWindowSeconds := by
  have htracks := tracks_throttleRun hwindow (tracks_nil hfresh) steps
  rw [List.nil_append] at htracks
  exact htracks.running hwindow hthreshold (blocked_iff.mp hblocked)

/-- After the end of the period that is running a block needs attempts of its own. -/
theorem block_renewed {settings : Settings} {scope : Scope} {ip : PyStr} {w : World}
    (hwindow : 0 < settings.badTokenIpWindowSeconds) (hthreshold : 0 < settings.badTokenIpThreshold)
    (hfresh : w.cache.live (ipKey scope.name ip) = none) {steps later : List ThrottleStep}
    {p : Period} (hp : lastPeriod settings.badTokenIpWindowSeconds
      (attemptTimes scope ip w.cache.now steps) = some p)
    (hrunning : throttleClock settings w steps < p.start + settings.badTokenIpWindowSeconds)
    (hover : p.start + settings.badTokenIpWindowSeconds ≤ throttleClock settings w (steps ++ later))
    (hblocked : Blocked settings scope ip (throttleRun settings w (steps ++ later))) :
    settings.badTokenIpThreshold ≤
      ((attemptTimes scope ip (throttleClock settings w steps) later).filter fun t =>
        p.start + settings.badTokenIpWindowSeconds ≤ t).length := by
  have htracks := tracks_throttleRun hwindow (tracks_nil hfresh) steps
  rw [List.nil_append] at htracks
  have hlater := tracks_throttleRun hwindow htracks later
  have hrun : throttleRun settings (throttleRun settings w steps) later =
      throttleRun settings w (steps ++ later) := List.foldl_append.symm
  rw [hrun] at hlater
  exact htracks.renewed hlater hwindow hthreshold hp hrunning hover (blocked_iff.mp hblocked)

/-- What is left out of the attempts of an IP in a scope makes no difference for its block. -/
theorem blocked_congr {settings : Settings} {scope : Scope} {ip : PyStr} {w : World}
    (hwindow : 0 < settings.badTokenIpWindowSeconds)
    (hfresh : w.cache.live (ipKey scope.name ip) = none) {steps steps' : List ThrottleStep}
    (htimes : attemptTimes scope ip w.cache.now steps' = attemptTimes scope ip w.cache.now steps)
    (hclock : (steps'.map ThrottleStep.seconds).sum = (steps.map ThrottleStep.seconds).sum) :
    Blocked settings scope ip (throttleRun settings w steps') ↔
      Blocked settings scope ip (throttleRun settings w steps) := by
  have hlive := (tracks_throttleRun hwindow (tracks_nil hfresh) steps).live
  have hlive' := (tracks_throttleRun hwindow (tracks_nil hfresh) steps').live
  rw [now_throttleRun hwindow] at hlive hlive'
  rw [htimes, hclock, ← hlive] at hlive'
  rw [blocked_iff, blocked_iff]
  unfold Cache.count Cache.get
  rw [hlive']

/-- A silent block is justified, ends with its period, and is the IP's own. -/
theorem silentBlock (settings : Settings) (scope : Scope) (ip : PyStr) (w : World)
    (steps : List ThrottleStep) (hwindow : 0 < settings.badTokenIpWindowSeconds)
    (hthreshold : 0 < settings.badTokenIpThreshold)
    (hfresh : w.cache.live (ipKey scope.name ip) = none) :
    SilentBlock settings scope ip w steps := by
  constructor
  · intro hblocked
    obtain ⟨p, hp, hperiod, hattempts, hstart, hrunning⟩ :=
      block_justified hwindow hthreshold hfresh hblocked
    obtain ⟨attempts, hfirst⟩ := List.head?_eq_some_iff.mp hperiod.first
    obtain ⟨earlier, hsuffix⟩ := hperiod.suffix
    have hwithin := hperiod.within
    rw [hfirst] at hsuffix hattempts hwithin
    refine ⟨earlier, p.start, attempts, hsuffix.symm, hattempts, hwithin, hstart, hrunning, ?_⟩
    intro later hover hagain
    exact block_renewed hwindow hthreshold hfresh hp hrunning hover hagain
  · rintro before after scope' ip' rfl hforeign
    apply blocked_congr hwindow hfresh
    · rw [attemptTimes_append, attemptTimes_append, attemptTimes, if_neg hforeign]
    · simp [ThrottleStep.seconds]
  · intro hrequests
    have hzero : w.cache.count (ipKey scope.name ip) = 0 := by
      unfold Cache.count Cache.get
      rw [hfresh]
      rfl
    exact count_of_oneAfterAnother hwindow (by omega) False.elim hrequests

/-- Two attempts from an IP, and a block that lasts as long as the window of the first. -/
theorem silentBlock_two :
    SilentBlock { exampleSettings with badTokenIpThreshold := 2, badTokenIpWindowSeconds := 60 }
      ⟨lit "register", by decide⟩ (lit "203.0.113.7") emptyWorld
      [.record ⟨lit "register", by decide⟩ (lit "203.0.113.7"), .wait 30,
        .record ⟨lit "register", by decide⟩ (lit "203.0.113.7")] :=
  silentBlock _ _ _ _ _ (by decide) (by decide) rfl

/-! ## The requests behind the steps -/

/-- The steps of a request: none, the check, or the check and the attempt that follows it. -/
inductive RequestSteps (settings : Settings) (scope : Scope) (ip : PyStr) (w : World) :
    List ThrottleStep → Prop
  | unseen : RequestSteps settings scope ip w []
  | checked : RequestSteps settings scope ip w [.check scope ip]
  | counted : ¬Blocked settings scope ip w →
      RequestSteps settings scope ip w [.check scope ip, .record scope ip]

section Requests

variable {settings : Settings} {scope : Scope} {ip : PyStr} {w : World} {steps : List ThrottleStep}

/-- A request that nothing interferes with is in order. -/
theorem RequestSteps.oneAfterAnother (h : RequestSteps settings scope ip w steps) :
    OneAfterAnother settings scope ip False w steps := by
  rcases h with _ | _ | hopen
  · trivial
  · exact ⟨by simp, trivial⟩
  · refine ⟨by simp, ?_, trivial⟩
    intro _
    rw [if_pos rfl]
    exact hopen

/-- The cache an attempt leaves depends on the cache only. -/
theorem cache_recordAttempt_congr {window : ℕ} (hwindow : 0 < window) (threshold : ℕ)
    {w w' : World} (h : w'.cache = w.cache) :
    (finalState ((recordAttempt healthyCache ip scope.name window threshold).run w')).cache =
      (finalState ((recordAttempt healthyCache ip scope.name window threshold).run w)).cache := by
  obtain ⟨n, c, hincr, hcache⟩ := cache_recordAttempt scope ip hwindow threshold w
  obtain ⟨n', c', hincr', hcache'⟩ := cache_recordAttempt scope ip hwindow threshold w'
  rw [h, hincr] at hincr'
  rw [hcache, hcache', (Prod.mk.inj (Option.some.inj hincr')).2]

theorem noColon_register : (0x3a : CodePoint) ∉ lit "register" := by decide

theorem noColon_badToken : (0x3a : CodePoint) ∉ lit "bad_token" := by decide

/-- The scope of `register_client`. -/
def registerScope : Scope := ⟨lit "register", noColon_register⟩

/-- The scope of `authenticate`. -/
def badTokenScope : Scope := ⟨lit "bad_token", noColon_badToken⟩

theorem cache_createAndCount (hwindow : 0 < settings.badTokenIpWindowSeconds) (env : RegisterEnv)
    (ip : PyStr) (row : Application) (response : JsonResponse) (w : World) :
    (finalState ((createAndCount settings healthyCache env ip row response).run w)).cache =
        w.cache ∨
      (finalState ((createAndCount settings healthyCache env ip row response).run w)).cache =
        (ThrottleStep.perform settings w (.record registerScope ip)).cache := by
  unfold createAndCount createApplication
  rcases env.create row with e | u
  · exact Or.inl rfl
  · refine Or.inr ?_
    have hcongr : (finalState ((recordAttempt healthyCache ip registerScope.name
        settings.badTokenIpWindowSeconds settings.badTokenIpThreshold).run
          { w with applications := w.applications ++ [row] })).cache = _ :=
      cache_recordAttempt_congr hwindow settings.badTokenIpThreshold (w := w) rfl
    have hperform : (ThrottleStep.perform settings w (.record registerScope ip)).cache = _ :=
      hcongr.symm
    rw [hperform]
    simp only [EStateM.run_bind, run_call_ok, EStateM.run_modify]
    rcases hrun : (recordAttempt healthyCache ip (lit "register") settings.badTokenIpWindowSeconds
        settings.badTokenIpThreshold).run { w with applications := w.applications ++ [row] }
      with ⟨count, w'⟩ | ⟨e, w'⟩
    · exact (congrArg (fun r => (finalState r).cache) hrun).symm
    · exact (congrArg (fun r => (finalState r).cache) hrun).symm

/-- A registration checks its IP, and counts when it is not blocked. -/
theorem cache_registerClient [UnicodeDatabase] (hwindow : 0 < settings.badTokenIpWindowSeconds)
    (env : RegisterEnv) (request : RegisterRequest) (w : World) :
    ∃ steps, RequestSteps settings registerScope (throttleIp request.remoteAddr) w steps ∧
      (finalState ((registerClient settings healthyCache env request).run w)).cache =
        (throttleRun settings w steps).cache := by
  have hcheck : ThrottleStep.perform settings w (.check registerScope
      (throttleIp request.remoteAddr)) = w :=
    finalState_isIpBlocked healthyCache (throttleIp request.remoteAddr) registerScope.name
      settings.badTokenIpThreshold w
  unfold registerClient
  rcases validateRegistration request.body with e | ⟨response | registration⟩
  · exact ⟨[], .unseen, rfl⟩
  · exact ⟨[], .unseen, rfl⟩
  · simp only
    rw [run_storeRegistration, run_isIpBlocked]
    simp only [healthyCache]
    by_cases hblocked : settings.badTokenIpThreshold ≤
        w.cache.count (ipKey (lit "register") (throttleIp request.remoteAddr))
    · refine ⟨[.check registerScope (throttleIp request.remoteAddr)], .checked, ?_⟩
      simp only [hblocked, decide_true, finalState_ok]
      exact congrArg World.cache hcheck.symm
    · simp only [hblocked, decide_false]
      have hopen : ¬Blocked settings registerScope (throttleIp request.remoteAddr) w := by
        rw [blocked_iff]
        exact hblocked
      rcases cache_createAndCount hwindow env (throttleIp request.remoteAddr)
        (applicationRow (newClientId settings env) registration)
        (registrationResponse env request (newClientId settings env) registration) w
        with hsame | hcounted
      · exact ⟨_, .checked, hsame.trans (congrArg World.cache hcheck.symm)⟩
      · refine ⟨_, .counted hopen, hcounted.trans ?_⟩
        have hrun : throttleRun settings w [.check registerScope (throttleIp request.remoteAddr),
            .record registerScope (throttleIp request.remoteAddr)] =
            ThrottleStep.perform settings (ThrottleStep.perform settings w (.check registerScope
              (throttleIp request.remoteAddr))) (.record registerScope
              (throttleIp request.remoteAddr)) := rfl
        rw [hrun, hcheck]

theorem keepsBadTokens_authenticateUser (env : AuthEnv) (request : McpRequest) (user : User)
    (token : AccessToken) :
    Keeps SameBadTokens (authenticateUser settings healthyCache env request user token) := by
  unfold authenticateUser
  refine .bind SameBadTokens.trans (.call SameBadTokens.refl _) fun result => ?_
  rcases result with gate | profile
  · exact keepsBadTokens_rejectUser healthyCache env request gate user token
  · exact .pure SameBadTokens.refl _

/-- A bearer lookup that finds nothing is an attempt, when the request has a header. -/
theorem badTokens_authenticateBearer (env : AuthEnv) (request : McpRequest) (w : World) :
    SameBadTokens w
        (finalState ((authenticateBearer settings healthyCache env request).run w)) ∨
      (request.hasAuthHeader = true ∧
        finalState ((authenticateBearer settings healthyCache env request).run w) =
          ThrottleStep.perform settings w
            (.record badTokenScope (throttleIp request.remoteAddr))) := by
  unfold authenticateBearer
  rcases env.verify with e | _ | ⟨user, token⟩
  · exact Or.inl (SameBadTokens.refl w)
  · by_cases hheader : request.hasAuthHeader = true
    · refine Or.inr ⟨hheader, ?_⟩
      simp only [EStateM.run_bind, run_call_ok, hheader, if_true]
      have hperform : ThrottleStep.perform settings w
          (.record badTokenScope (throttleIp request.remoteAddr)) =
          finalState ((recordAttempt healthyCache (throttleIp request.remoteAddr) (lit "bad_token")
            settings.badTokenIpWindowSeconds settings.badTokenIpThreshold).run w) := rfl
      rw [hperform]
      rcases (recordAttempt healthyCache (throttleIp request.remoteAddr) (lit "bad_token")
        settings.badTokenIpWindowSeconds settings.badTokenIpThreshold).run w with ⟨count, w'⟩ | ⟨e, w'⟩
      · rfl
      · rfl
    · refine Or.inl ?_
      simp only [EStateM.run_bind, run_call_ok, hheader]
      exact SameBadTokens.refl w
  · exact Or.inl (keepsBadTokens_authenticateUser env request user token w)

/-- A request with a header checks its IP, and counts when it is not blocked and its token is bad. -/
theorem badTokens_authenticate [UnicodeDatabase] (env : AuthEnv) (request : McpRequest) (w : World) :
    ∃ steps, RequestSteps settings badTokenScope (throttleIp request.remoteAddr) w steps ∧
      SameBadTokens (throttleRun settings w steps)
        (finalState ((authenticate settings healthyCache env request).run w)) := by
  have hcheck : ThrottleStep.perform settings w (.check badTokenScope
      (throttleIp request.remoteAddr)) = w :=
    finalState_isIpBlocked healthyCache (throttleIp request.remoteAddr) badTokenScope.name
      settings.badTokenIpThreshold w
  rw [run_authenticate]
  rcases enforceBodySizeCap request with e | u
  · exact ⟨[], .unseen, SameBadTokens.refl w⟩
  rcases env.readBody with e | u
  · exact ⟨[], .unseen, SameBadTokens.refl w⟩
  have hbearer : SameBadTokens w
      (finalState ((authenticateBearer settings healthyCache env request).run w)) ∨ _ :=
    badTokens_authenticateBearer env request w
  simp only [run_isIpBlocked, healthyCache]
  by_cases hheader : request.hasAuthHeader = true
  · simp only [hheader, if_true]
    by_cases hblocked : settings.badTokenIpThreshold ≤
        w.cache.count (ipKey (lit "bad_token") (throttleIp request.remoteAddr))
    · refine ⟨[.check badTokenScope (throttleIp request.remoteAddr)], .checked, ?_⟩
      simp only [hblocked, decide_true, finalState_ok]
      rw [throttleRun, List.foldl_cons, List.foldl_nil, hcheck]
      exact SameBadTokens.refl w
    · simp only [hblocked, decide_false]
      have hopen : ¬Blocked settings badTokenScope (throttleIp request.remoteAddr) w := by
        rw [blocked_iff]
        exact hblocked
      rcases hbearer with hsame | ⟨-, hcounted⟩
      · refine ⟨_, .checked, ?_⟩
        rw [throttleRun, List.foldl_cons, List.foldl_nil, hcheck]
        exact hsame
      · refine ⟨_, .counted hopen, ?_⟩
        rw [throttleRun, List.foldl_cons, List.foldl_cons, List.foldl_nil, hcheck, ← hcounted]
        exact SameBadTokens.refl _
  · simp only [hheader]
    rcases hbearer with hsame | ⟨hheader', -⟩
    · exact ⟨[], .unseen, hsame⟩
    · exact absurd hheader' hheader

end Requests

end McpSql
