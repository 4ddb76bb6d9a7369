import McpSql.Models

/-!
# The per-IP throttle

`throttle.py` over a cache whose operations may each fail.  `Cache` is the healthy cache; a fault at
a call site makes the operation raise and leaves the cache alone.
-/

namespace McpSql

open Python PyStr Effect FixedWindow

/-- The cache calls of one request. -/
inductive CacheSite where
  /-- `cache.get` in `is_ip_blocked`. -/
  | blockGet
  /-- `cache.add` in `record_attempt`. -/
  | countAdd
  /-- `cache.incr` in `record_attempt`. -/
  | countIncr
  /-- `cache.add` in the ambiguous-profile branch of `authenticate`. -/
  | warnAdd
  /-- `cache.add` in `record_query_volume`, for one window. -/
  | volumeAdd (window : ℕ)
  /-- `cache.incr` in `record_query_volume`, for one window. -/
  | volumeIncr (window : ℕ)
  deriving DecidableEq, Repr

/-- The exceptions a cache operation may raise. -/
inductive CacheFault where
  | connectionError
  | valueError
  /-- The backend's own class, such as `redis.exceptions.ConnectionError`. -/
  | backend
  deriving DecidableEq, Repr

/-- The exception of a fault. -/
def CacheFault.exc : CacheFault → PyExc
  | connectionError => .connectionError (lit "connection refused")
  | valueError => .valueError (lit "invalid value")
  | backend => .otherException (lit "redis.exceptions.ConnectionError")
      (some (lit "connection refused"))

/-- Which cache calls of a request fail, and how. -/
abbrev CacheFaults := CacheSite → Option CacheFault

/-- A cache that works. -/
def healthyCache : CacheFaults := fun _ => none

/-- Raise if the cache call fails. -/
def faultAt (faults : CacheFaults) (site : CacheSite) : Py Unit :=
  match faults site with
  | some fault => raise fault.exc
  | none => pure ()

/-- `cache.get(key)`. -/
def cacheGet (faults : CacheFaults) (site : CacheSite) (key : PyStr) : Py (Option ℕ) := do
  faultAt faults site
  return (← get).cache.get key

/-- `cache.add(key, value, timeout)`. -/
def cacheAdd (faults : CacheFaults) (site : CacheSite) (key : PyStr) (value timeout : ℕ) :
    Py Bool := do
  faultAt faults site
  modifyGet fun w =>
    let (added, cache) := w.cache.add key value timeout
    (added, { w with cache := cache })

/-- `cache.incr(key)`, which raises `ValueError` for a key that is not there. -/
def cacheIncr (faults : CacheFaults) (site : CacheSite) (key : PyStr) : Py ℕ := do
  faultAt faults site
  match (← get).cache.incr key with
  | some (count, cache) =>
    modify fun w => { w with cache := cache }
    return count
  | none => raise (.valueError (lit "Key '" ++ key ++ lit "' not found"))

/-- `except (ConnectionError, ValueError)`. -/
def isOutage (e : PyExc) : Bool := e.isConnectionError || e.isValueError

/-- `request.META.get("REMOTE_ADDR") or "unknown"`. -/
def throttleIp (remoteAddr : Option PyStr) : PyStr :=
  match remoteAddr with
  | some (c :: rest) => c :: rest
  | _ => lit "unknown"

/-- `_ip_key`. -/
def ipKey (scope ip : PyStr) : PyStr := lit "mcp_sql:" ++ scope ++ lit ":ip:" ++ ip

/-- `is_ip_blocked`. -/
def isIpBlocked (faults : CacheFaults) (ip scope : PyStr) (threshold : ℕ) : Py Bool := do
  let count ← catching isOutage
    (do return some ((← cacheGet faults .blockGet (ipKey scope ip)).getD 0))
    (fun _ => pure none)
  match count with
  | some count => return decide (threshold ≤ count)
  | none => return false

/-- The warning `record_attempt` emits when the block engages. -/
def blockMessage (scope ip : PyStr) (count window threshold : ℕ) : PyStr :=
  lit "MCP " ++ scope ++ lit " silent IP block engaged: ip=" ++ ip ++ lit " count=" ++
    ofNat count ++ lit " threshold=" ++ ofNat threshold ++ lit " window_seconds=" ++
    ofNat window ++ lit ". Clear via `cache.delete('" ++ ipKey scope ip ++
    lit "')` or wait the window."

/-- The handler of `record_attempt`: an outage is logged, and there is no count. -/
def attemptFailed (ip scope : PyStr) : Py (Option ℕ) := do
  emit .warning (lit "MCP " ++ scope ++ lit " counter increment failed (ip=" ++ ip ++ lit ")")
  return none

/-- The end of `record_attempt`: warn at the increment that reaches the threshold. -/
def reportAttempt (ip scope : PyStr) (window threshold : ℕ) : Option ℕ → Py ℕ
  | none => return 0
  | some count => do
    if count = threshold then
      emit .warning (blockMessage scope ip count window threshold)
    return count

/-- Seed a counter and count it up. -/
def seedAndIncr (faults : CacheFaults) (addSite incrSite : CacheSite) (key : PyStr)
    (window : ℕ) : Py ℕ := do
  let _ ← cacheAdd faults addSite key 0 window
  cacheIncr faults incrSite key

/-- The two cache calls of `record_attempt`. -/
def seedAndCount (faults : CacheFaults) (ip scope : PyStr) (window : ℕ) : Py ℕ :=
  seedAndIncr faults .countAdd .countIncr (ipKey scope ip) window

/-- `record_attempt`. -/
def recordAttempt (faults : CacheFaults) (ip scope : PyStr) (window threshold : ℕ) : Py ℕ := do
  let count ← catching isOutage (some <$> seedAndCount faults ip scope window)
    (fun _ => attemptFailed ip scope)
  reportAttempt ip scope window threshold count

/-! ## What the throttle does to the state -/

/-- The states differ at most in the cache and the log. -/
def SameTables (w w' : World) : Prop := ∃ cache log, w' = { w with cache := cache, log := log }

theorem SameTables.refl (w : World) : SameTables w w := ⟨w.cache, w.log, rfl⟩

theorem SameTables.trans (w w' w'' : World) (h : SameTables w w') (h' : SameTables w' w'') :
    SameTables w w'' := by
  obtain ⟨cache, log, rfl⟩ := h
  obtain ⟨cache', log', rfl⟩ := h'
  exact ⟨cache', log', rfl⟩

theorem SameTables.symm {w w' : World} (h : SameTables w w') : SameTables w' w := by
  obtain ⟨cache, log, rfl⟩ := h
  exact ⟨w.cache, w.log, rfl⟩

theorem run_faultAt (faults : CacheFaults) (site : CacheSite) (w : World) :
    (faultAt faults site).run w =
      match faults site with
      | some fault => .error fault.exc w
      | none => .ok () w := by
  unfold faultAt
  cases faults site with
  | none => rfl
  | some fault => rfl

theorem run_cacheAdd (faults : CacheFaults) (site : CacheSite) (key : PyStr)
    (value timeout : ℕ) (w : World) :
    (cacheAdd faults site key value timeout).run w =
      match faults site with
      | some fault => .error fault.exc w
      | none => .ok (w.cache.add key value timeout).1
          { w with cache := (w.cache.add key value timeout).2 } := by
  unfold cacheAdd
  rw [EStateM.run_bind, run_faultAt]
  cases faults site with
  | none => rfl
  | some fault => rfl

theorem run_cacheIncr (faults : CacheFaults) (site : CacheSite) (key : PyStr) (w : World) :
    (cacheIncr faults site key).run w =
      match faults site with
      | some fault => .error fault.exc w
      | none =>
        match w.cache.incr key with
        | some (count, cache) => .ok count { w with cache := cache }
        | none => .error (.valueError (lit "Key '" ++ key ++ lit "' not found")) w := by
  unfold cacheIncr
  rw [EStateM.run_bind, run_faultAt]
  cases faults site with
  | none =>
    simp only [EStateM.run_bind, EStateM.run_get]
    cases w.cache.incr key with
    | none => rfl
    | some pair => rfl
  | some fault => rfl

/-- `is_ip_blocked` compares the counter, answers `False` in an outage it knows, and raises any
other exception of the cache. -/
theorem run_isIpBlocked (faults : CacheFaults) (ip scope : PyStr) (threshold : ℕ) (w : World) :
    (isIpBlocked faults ip scope threshold).run w =
      match faults .blockGet with
      | none => .ok (decide (threshold ≤ w.cache.count (ipKey scope ip))) w
      | some fault => if isOutage fault.exc then .ok false w else .error fault.exc w := by
  unfold isIpBlocked cacheGet
  cases hfault : faults .blockGet with
  | none =>
    simp only [EStateM.run_bind, run_catching, run_map, bind_pure_comp, run_faultAt, hfault,
      EStateM.run_get, EStateM.run_pure]
    rfl
  | some fault =>
    by_cases houtage : isOutage fault.exc = true
    · simp [run_faultAt, hfault, houtage]
    · simp [run_faultAt, hfault, houtage]

/-- The check changes nothing. -/
theorem finalState_isIpBlocked (faults : CacheFaults) (ip scope : PyStr) (threshold : ℕ)
    (w : World) : finalState ((isIpBlocked faults ip scope threshold).run w) = w := by
  rw [run_isIpBlocked]
  split
  · rfl
  · split
    · rfl
    · rfl

theorem keeps_emit (level : LogLevel) (message : PyStr) : Keeps SameTables (emit level message) :=
  .modify fun w => ⟨w.cache, w.log ++ [⟨level, message⟩], rfl⟩

theorem keeps_faultAt (faults : CacheFaults) (site : CacheSite) :
    Keeps SameTables (faultAt faults site) := by
  unfold faultAt
  cases faults site with
  | none => exact .pure SameTables.refl ()
  | some fault => exact .raise SameTables.refl fault.exc

theorem keeps_cacheAdd (faults : CacheFaults) (site : CacheSite) (key : PyStr)
    (value timeout : ℕ) : Keeps SameTables (cacheAdd faults site key value timeout) := by
  unfold cacheAdd
  refine .bind SameTables.trans (keeps_faultAt faults site) fun _ => ?_
  exact .modifyGet fun w => ⟨(w.cache.add key value timeout).2, w.log, rfl⟩

theorem keeps_cacheIncr (faults : CacheFaults) (site : CacheSite) (key : PyStr) :
    Keeps SameTables (cacheIncr faults site key) := by
  unfold cacheIncr
  refine .bind SameTables.trans (keeps_faultAt faults site) fun _ => ?_
  refine .bind SameTables.trans (.get SameTables.refl) fun w => ?_
  cases w.cache.incr key with
  | none => exact .raise SameTables.refl _
  | some pair =>
    refine .bind SameTables.trans (.modify fun w => ⟨pair.2, w.log, rfl⟩) fun _ => ?_
    exact .pure SameTables.refl _

theorem keeps_seedAndIncr (faults : CacheFaults) (addSite incrSite : CacheSite) (key : PyStr)
    (window : ℕ) : Keeps SameTables (seedAndIncr faults addSite incrSite key window) := by
  unfold seedAndIncr
  refine .bind SameTables.trans (keeps_cacheAdd _ _ _ _ _) fun _ => ?_
  exact keeps_cacheIncr _ _ _

theorem keeps_attemptFailed (ip scope : PyStr) : Keeps SameTables (attemptFailed ip scope) := by
  unfold attemptFailed
  exact .bind SameTables.trans (keeps_emit _ _) fun _ => .pure SameTables.refl _

theorem keeps_reportAttempt (ip scope : PyStr) (window threshold : ℕ) (count : Option ℕ) :
    Keeps SameTables (reportAttempt ip scope window threshold count) := by
  unfold reportAttempt
  cases count with
  | none => exact .pure SameTables.refl 0
  | some count =>
    by_cases hcount : count = threshold
    · simp only [hcount, if_true]
      exact .bind SameTables.trans (keeps_emit _ _) fun _ => .pure SameTables.refl _
    · simp only [hcount, if_false]
      exact .pure SameTables.refl _

/-- `record_attempt` touches no table. -/
theorem keeps_recordAttempt (faults : CacheFaults) (ip scope : PyStr) (window threshold : ℕ) :
    Keeps SameTables (recordAttempt faults ip scope window threshold) := by
  unfold recordAttempt seedAndCount
  refine .bind SameTables.trans (.catching SameTables.trans (.map some ?_) fun _ => ?_)
    fun count => ?_
  · exact keeps_seedAndIncr _ _ _ _ _
  · exact keeps_attemptFailed ip scope
  · exact keeps_reportAttempt ip scope window threshold count

/-! ## Counting before an answer -/

section AttemptThen

variable (faults : CacheFaults) (ip scope : PyStr) (window threshold : ℕ)

/-- Counting an attempt before answering `a`. -/
theorem outcome_attemptThen {α : Type} (a : α) (w : World) :
    outcome ((do
      let _ ← recordAttempt faults ip scope window threshold
      return a : Py α).run w) =
      (outcome ((recordAttempt faults ip scope window threshold).run w)).map fun _ => a := by
  rw [EStateM.run_bind]
  cases (recordAttempt faults ip scope window threshold).run w with
  | ok count w' => rfl
  | error e w' => rfl

theorem keeps_attemptThen {α : Type} (a : α) : Keeps SameTables (do
    let _ ← recordAttempt faults ip scope window threshold
    return a : Py α) :=
  .bind SameTables.trans (keeps_recordAttempt faults ip scope window threshold)
    fun _ => .pure SameTables.refl a

end AttemptThen

/-! ## Which failures are caught -/

/-- A failure at the site is one the throttle catches. -/
def Handled (faults : CacheFaults) (site : CacheSite) : Prop :=
  ∀ fault, faults site = some fault → isOutage fault.exc = true

/-- The failure of `record_attempt` is one it catches; the increment is reached only when the seed
works. -/
def CountHandled (faults : CacheFaults) : Prop :=
  Handled faults .countAdd ∧ (faults .countAdd = none → Handled faults .countIncr)

theorem handled_of_none {faults : CacheFaults} {site : CacheSite} (h : faults site = none) :
    Handled faults site := by
  intro fault hfault
  rw [h] at hfault
  exact absurd hfault (by simp)

theorem handled_iff_of_some {faults : CacheFaults} {site : CacheSite} {fault : CacheFault}
    (h : faults site = some fault) : Handled faults site ↔ isOutage fault.exc = true := by
  constructor
  · intro hhandled
    exact hhandled fault h
  · intro hcaught fault' hfault'
    obtain rfl : fault = fault' := by simpa [h] using hfault'
    exact hcaught

/-- The only failure the throttle does not catch is the backend's own exception class. -/
theorem eq_backend_of_not_isOutage {fault : CacheFault} (h : isOutage fault.exc = false) :
    fault = .backend := by
  cases fault with
  | connectionError => simp [isOutage, CacheFault.exc, PyExc.isConnectionError] at h
  | valueError => simp [isOutage, CacheFault.exc, PyExc.isValueError] at h
  | backend => rfl

theorem outcome_reportAttempt (ip scope : PyStr) (window threshold : ℕ) (count : Option ℕ)
    (w : World) : outcome ((reportAttempt ip scope window threshold count).run w) =
      .ok (count.getD 0) := by
  unfold reportAttempt
  cases count with
  | none => rfl
  | some count =>
    by_cases hcount : count = threshold
    · simp [hcount]
    · simp [hcount]

/-- An outage that is caught counts nothing; any other exception escapes. -/
theorem outcome_recordAttempt (faults : CacheFaults) (ip scope : PyStr) (window threshold : ℕ)
    (w : World) : outcome ((recordAttempt faults ip scope window threshold).run w) =
      match outcome ((seedAndCount faults ip scope window).run w) with
      | .ok count => .ok count
      | .error e => if isOutage e then .ok 0 else .error e := by
  unfold recordAttempt
  rw [EStateM.run_bind, run_catching, run_map]
  cases (seedAndCount faults ip scope window).run w with
  | ok count w' => exact outcome_reportAttempt ip scope window threshold (some count) w'
  | error e w' =>
    by_cases hcaught : isOutage e = true
    · have hreport := outcome_reportAttempt ip scope window threshold none
      simp [hcaught, attemptFailed, hreport]
    · simp [hcaught]

/-- The cache calls raise the first failure that is reached, or `ValueError` for a counter that
has expired in between. -/
theorem outcome_seedAndIncr (faults : CacheFaults) (addSite incrSite : CacheSite) (key : PyStr)
    (window : ℕ) (w : World) :
    outcome ((seedAndIncr faults addSite incrSite key window).run w) =
      match faults addSite, faults incrSite with
      | some fault, _ => .error fault.exc
      | none, some fault => .error fault.exc
      | none, none =>
        match (w.cache.add key 0 window).2.incr key with
        | some (count, _) => .ok count
        | none => .error (.valueError (lit "Key '" ++ key ++ lit "' not found")) := by
  unfold seedAndIncr
  rw [EStateM.run_bind, run_cacheAdd]
  cases faults addSite with
  | some fault => rfl
  | none =>
    simp only [run_cacheIncr]
    cases faults incrSite with
    | some fault => rfl
    | none =>
      cases (w.cache.add key 0 window).2.incr key with
      | none => rfl
      | some pair => rfl

theorem isException_exc (fault : CacheFault) : fault.exc.isException = true := by
  cases fault <;> rfl

theorem raisesOnly_seedAndIncr (faults : CacheFaults) (addSite incrSite : CacheSite) (key : PyStr)
    (window : ℕ) : RaisesOnly (fun e => e.isException = true)
      (seedAndIncr faults addSite incrSite key window) := by
  intro w e h
  rw [outcome_seedAndIncr] at h
  split at h
  · obtain rfl := Except.error.inj h
    exact isException_exc _
  · obtain rfl := Except.error.inj h
    exact isException_exc _
  · split at h
    · simp at h
    · obtain rfl := Except.error.inj h
      rfl

/-- With a cache that works a positive window counts up the key and nothing else. -/
theorem run_seedAndIncr_healthy (addSite incrSite : CacheSite) (key : PyStr) {window : ℕ}
    (h : 0 < window) (w : World) :
    ∃ cache, (seedAndIncr healthyCache addSite incrSite key window).run w =
        .ok (w.cache.count key + 1) { w with cache := cache } ∧
      cache.count key = w.cache.count key + 1 ∧
      ∀ k, k ≠ key → cache.count k = w.cache.count k := by
  obtain ⟨cache, hincr, -, hcount, hother⟩ := FixedWindow.Cache.incr_add w.cache key h
  refine ⟨cache, ?_, hcount, hother⟩
  unfold seedAndIncr
  rw [EStateM.run_bind, run_cacheAdd]
  simp only [healthyCache, run_cacheIncr, hincr]

/-- With failures that are caught `record_attempt` returns. -/
theorem recordAttempt_returns {faults : CacheFaults} (ip scope : PyStr) (window threshold : ℕ)
    (w : World) (h : CountHandled faults) :
    ∃ count, outcome ((recordAttempt faults ip scope window threshold).run w) = .ok count := by
  obtain ⟨hadd, hincr⟩ := h
  rw [outcome_recordAttempt, seedAndCount, outcome_seedAndIncr]
  cases hfaultAdd : faults .countAdd with
  | some fault => exact ⟨0, by simp [hadd fault hfaultAdd]⟩
  | none =>
    cases hfaultIncr : faults .countIncr with
    | some fault => exact ⟨0, by simp [hincr hfaultAdd fault hfaultIncr]⟩
    | none =>
      cases (w.cache.add (ipKey scope ip) 0 window).2.incr (ipKey scope ip) with
      | none => exact ⟨0, rfl⟩
      | some pair => exact ⟨pair.1, rfl⟩

/-- A failure that is not caught escapes from `record_attempt`. -/
theorem recordAttempt_raises {faults : CacheFaults} (ip scope : PyStr) (window threshold : ℕ)
    (w : World) (h : ¬CountHandled faults) :
    ∃ e, outcome ((recordAttempt faults ip scope window threshold).run w) = .error e := by
  rw [outcome_recordAttempt, seedAndCount, outcome_seedAndIncr]
  cases hfaultAdd : faults .countAdd with
  | some fault =>
    have hescapes : isOutage fault.exc = false := by
      by_contra hcaught
      refine h ⟨(handled_iff_of_some hfaultAdd).mpr (by simpa using hcaught), ?_⟩
      intro hnone
      simp [hfaultAdd] at hnone
    exact ⟨fault.exc, by simp [hescapes]⟩
  | none =>
    cases hfaultIncr : faults .countIncr with
    | some fault =>
      have hescapes : isOutage fault.exc = false := by
        by_contra hcaught
        refine h ⟨handled_of_none hfaultAdd, fun _ => ?_⟩
        exact (handled_iff_of_some hfaultIncr).mpr (by simpa using hcaught)
      exact ⟨fault.exc, by simp [hescapes]⟩
    | none => exact absurd ⟨handled_of_none hfaultAdd, fun _ => handled_of_none hfaultIncr⟩ h

end McpSql
