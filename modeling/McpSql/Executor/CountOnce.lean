import McpSql.Executor.Audit
import McpSql.Foundations.SharedCount
import Mathlib.Data.List.Nodup
import Mathlib.Logic.Function.Iterate

/-!
# Threshold alerts

The calls of `record_query_volume` and `record_attempt` by any number of workers, interleaved at
their cache calls: `cache.add` is one step, `cache.incr` with the record that follows from its answer
is the next.  `Round.abstract` takes such a system to the counters of `SharedCount`, so the counts of
a key are `1`, `2`, `3`, … in the order of the increments and the threshold is met once.
-/

namespace McpSql

open Python PyStr Effect FixedWindow GuardedRun SharedCount

/-! ## What is counted -/

/-- A scope of the throttle, such as `bad_token` and `register`: a name without a colon. -/
structure Scope where
  name : PyStr
  noColon : (0x3a : CodePoint) ∉ name
  deriving DecidableEq

/-- What a counter counts: the queries of a user with a decision, in a window, or the attempts of an
IP in a scope. -/
inductive Subject where
  | volume (userId : PyStr) (decision : Decision) (window : ℕ)
  | attempt (scope : Scope) (ip : PyStr)
  deriving DecidableEq

/-- The cache key of a counter. -/
def Subject.key : Subject → PyStr
  | volume userId decision window => volumeKey decision window userId
  | attempt scope ip => ipKey scope.name ip

theorem noColon_value (decision : Decision) : (0x3a : CodePoint) ∉ decision.value := by
  cases decision with
  | allowed => decide
  | rejected => decide

theorem noColon_ofNat (n : ℕ) : (0x3a : CodePoint) ∉ ofNat n :=
  ofChar_notMem_ofNat (c := ':') (fun k => Nat.digitChar_ne ':' (by decide)) n

theorem volumeKey_eq (decision : Decision) (window : ℕ) (userId : PyStr) :
    volumeKey decision window userId =
      lit "mcp_sql:" ++ (lit "vol" ++ 0x3a :: (decision.value ++ 0x3a ::
        (ofNat window ++ 0x3a :: userId))) := by
  unfold volumeKey
  simp only [List.append_assoc]
  rfl

theorem ipKey_eq (scope ip : PyStr) :
    ipKey scope ip = lit "mcp_sql:" ++ (scope ++ 0x3a :: (lit "ip" ++ 0x3a :: ip)) := by
  unfold ipKey
  simp only [List.append_assoc]
  rfl

/-- The decision, the window and the user can be read off the key. -/
theorem eq_of_volumeKey_eq {decision decision' : Decision} {window window' : ℕ}
    {userId userId' : PyStr}
    (h : volumeKey decision window userId = volumeKey decision' window' userId') :
    decision = decision' ∧ window = window' ∧ userId = userId' := by
  rw [volumeKey_eq, volumeKey_eq] at h
  have htail := List.append_cancel_left (List.append_cancel_left h)
  obtain ⟨hdecision, hrest⟩ := append_cons_inj (noColon_value decision) (noColon_value decision')
    (List.cons.inj htail).2
  obtain ⟨hwindow, hpk⟩ := append_cons_inj (noColon_ofNat window) (noColon_ofNat window') hrest
  refine ⟨?_, ofNat_injective hwindow, hpk⟩
  cases decision <;> cases decision' <;> first | rfl | exact absurd hdecision (by decide)

/-- The scope and the IP can be read off the key. -/
theorem eq_of_ipKey_eq {scope scope' : Scope} {ip ip' : PyStr}
    (h : ipKey scope.name ip = ipKey scope'.name ip') : scope = scope' ∧ ip = ip' := by
  rw [ipKey_eq, ipKey_eq] at h
  obtain ⟨hscope, hrest⟩ := append_cons_inj scope.noColon scope'.noColon
    (List.append_cancel_left h)
  have hip := List.append_cancel_left hrest
  obtain ⟨name, hname⟩ := scope
  obtain ⟨name', hname'⟩ := scope'
  obtain rfl : name = name' := hscope
  exact ⟨rfl, (List.cons.inj hip).2⟩

/-- No scope makes the key of an IP one of a volume counter: `ip` is no decision. -/
theorem volumeKey_ne_ipKey (decision : Decision) (window : ℕ) (userId : PyStr) (scope : Scope)
    (ip : PyStr) : volumeKey decision window userId ≠ ipKey scope.name ip := by
  intro h
  rw [volumeKey_eq, ipKey_eq] at h
  obtain ⟨-, hrest⟩ := append_cons_inj (by decide) scope.noColon (List.append_cancel_left h)
  obtain ⟨hdecision, -⟩ := append_cons_inj (noColon_value decision) (by decide) hrest
  cases decision with
  | allowed => exact absurd hdecision (by decide)
  | rejected => exact absurd hdecision (by decide)

/-- Different counters have different keys. -/
theorem Subject.key_injective : Function.Injective Subject.key := by
  intro subject subject' h
  cases subject with
  | volume userId decision window =>
    cases subject' with
    | volume userId' decision' window' =>
      obtain ⟨rfl, rfl, rfl⟩ := eq_of_volumeKey_eq h
      rfl
    | attempt scope ip => exact absurd h (volumeKey_ne_ipKey decision window userId scope ip)
  | attempt scope ip =>
    cases subject' with
    | volume userId decision window =>
      exact absurd h.symm (volumeKey_ne_ipKey decision window userId scope ip)
    | attempt scope' ip' =>
      obtain ⟨rfl, rfl⟩ := eq_of_ipKey_eq h
      rfl

/-! ## One counter -/

/-- A counter that a call advances: the cache calls, the window and the threshold, the record of the
increment that reaches the threshold and the record of an outage. -/
structure CountJob where
  subject : Subject
  window : ℕ
  threshold : ℕ
  addSite : CacheSite
  incrSite : CacheSite
  alert : LogRecord
  failure : LogRecord

/-- The loop body of `record_query_volume`. -/
def volumeJob (user : User) (decision : Decision) (window threshold : ℕ) : CountJob where
  subject := .volume user.pk decision window
  window := window
  threshold := threshold
  addSite := .volumeAdd window
  incrSite := .volumeIncr window
  alert := ⟨.error, volumeMessage user decision threshold window threshold⟩
  failure := ⟨.warning, lit "MCP volume counter increment failed (user=" ++ user.pk ++
    lit " decision=" ++ decision.value ++ lit " window=" ++ ofNat window ++ lit "s)"⟩

/-- The body of `record_attempt`, with the knobs both callers pass. -/
def attemptJob (settings : Settings) (scope : Scope) (ip : PyStr) : CountJob where
  subject := .attempt scope ip
  window := settings.badTokenIpWindowSeconds
  threshold := settings.badTokenIpThreshold
  addSite := .countAdd
  incrSite := .countIncr
  alert := ⟨.warning, blockMessage scope.name ip settings.badTokenIpThreshold
    settings.badTokenIpWindowSeconds settings.badTokenIpThreshold⟩
  failure := ⟨.warning, lit "MCP " ++ scope.name ++ lit " counter increment failed (ip=" ++ ip ++
    lit ")"⟩

/-- Emit a record. -/
def emitRecord (record : LogRecord) : Py Unit := emit record.level record.message

/-- The first cache call of a counter. -/
def seedJob (job : CountJob) : Py Unit := do
  let _ ← cacheAdd healthyCache job.addSite job.subject.key 0 job.window

/-- The second cache call of a counter, and what follows from its answer. -/
def countJob (job : CountJob) : Py (Option ℕ) := do
  let count ← catching isOutage
    (some <$> cacheIncr healthyCache job.incrSite job.subject.key)
    (fun _ => do emitRecord job.failure; return none)
  if count = some job.threshold then
    emitRecord job.alert
  return count

/-- The two calls in a row. -/
def countUp (job : CountJob) : Py (Option ℕ) := do
  seedJob job
  countJob job

/-- An increment answers the next count, and reports it when it is the threshold; a counter that has
expired is an outage. -/
theorem run_countJob (job : CountJob) (w : World) :
    (countJob job).run w =
      match w.cache.incr job.subject.key with
      | some (count, cache) => .ok (some count) { w with
          cache := cache
          log := w.log ++ if count = job.threshold then [job.alert] else [] }
      | none => .ok none { w with log := w.log ++ [job.failure] } := by
  unfold countJob
  simp only [EStateM.run_bind, run_catching, run_map, run_cacheIncr, healthyCache]
  cases w.cache.incr job.subject.key with
  | none => rfl
  | some pair =>
    by_cases hreached : pair.1 = job.threshold
    · simp [hreached, emitRecord]
    · simp [hreached]

theorem run_seedJob (job : CountJob) (w : World) :
    (seedJob job).run w =
      .ok () { w with cache := (w.cache.add job.subject.key 0 job.window).2 } := rfl

theorem run_countUp (job : CountJob) (w : World) :
    (countUp job).run w = (countJob job).run
      { w with cache := (w.cache.add job.subject.key 0 job.window).2 } := rfl

/-- One window of `record_query_volume` is its seed followed by its count. -/
theorem run_countWindow_eq {env : AuditEnv} (hfaults : env.faults = healthyCache)
    (user : User) (decision : Decision) (window threshold : ℕ) (w : World) :
    (countWindow env user decision window threshold).run w =
      (discard (countUp (volumeJob user decision window threshold)) : Py Unit).run w := by
  rw [run_discard, run_countUp, run_countJob]
  unfold countWindow seedAndIncr
  simp only [hfaults, EStateM.run_bind, run_catching, run_map, run_cacheAdd, run_cacheIncr,
    healthyCache, volumeJob, Subject.key]
  cases (w.cache.add (volumeKey decision window user.pk) 0 window).2.incr
      (volumeKey decision window user.pk) with
  | none => rfl
  | some pair =>
    by_cases hreached : pair.1 = threshold
    · simp [hreached]
    · simp [hreached]

/-- `record_attempt` is its seed followed by its count. -/
theorem run_recordAttempt_eq (settings : Settings) (scope : Scope) (ip : PyStr) (w : World) :
    (recordAttempt healthyCache ip scope.name settings.badTokenIpWindowSeconds
        settings.badTokenIpThreshold).run w =
      ((fun count => count.getD 0) <$> countUp (attemptJob settings scope ip)).run w := by
  rw [run_map, run_countUp, run_countJob]
  unfold recordAttempt seedAndCount seedAndIncr
  simp only [EStateM.run_bind, run_catching, run_map, run_cacheAdd, run_cacheIncr, healthyCache,
    attemptJob, Subject.key]
  cases (w.cache.add (ipKey scope.name ip) 0 settings.badTokenIpWindowSeconds).2.incr
      (ipKey scope.name ip) with
  | none => rfl
  | some pair =>
    by_cases hreached : pair.1 = settings.badTokenIpThreshold
    · simp [hreached, reportAttempt]
    · simp [hreached, reportAttempt]

/-! ## Calls -/

/-- A call of `record_query_volume`, or one of `record_attempt`. -/
inductive Call where
  | queryVolume (user : User) (decision : Decision)
  | attempt (scope : Scope) (ip : PyStr)

/-- What a call does. -/
def Call.perform (env : AuditEnv) : Call → Py Unit
  | queryVolume user decision => recordQueryVolume env user decision
  | attempt scope ip => discard (recordAttempt env.faults ip scope.name
      env.settings.badTokenIpWindowSeconds env.settings.badTokenIpThreshold)

/-- The counters a call advances, in order. -/
def Call.jobs (settings : Settings) : Call → List CountJob
  | queryVolume user decision => (settings.volumeAlertThresholds decision).entries.map fun entry =>
      volumeJob user decision entry.1 entry.2
  | attempt scope ip => [attemptJob settings scope ip]

/-- Advance counters one after another. -/
def countAll (jobs : List CountJob) : Py Unit := forM jobs fun job => discard (countUp job)

/-- A call that nothing interferes with advances its counters one after another. -/
theorem run_perform {env : AuditEnv} (hfaults : env.faults = healthyCache) (call : Call)
    (w : World) : (call.perform env).run w = (countAll (call.jobs env.settings)).run w := by
  cases call with
  | queryVolume user decision =>
    simp only [Call.perform, Call.jobs, recordQueryVolume, countAll]
    generalize (env.settings.volumeAlertThresholds decision).entries = entries
    induction entries generalizing w with
    | nil => rfl
    | cons entry rest ih =>
      rw [List.map_cons, List.forM_cons, List.forM_cons, EStateM.run_bind, EStateM.run_bind,
        run_countWindow_eq hfaults]
      cases (discard (countUp (volumeJob user decision entry.1 entry.2)) : Py Unit).run w with
      | ok u w' => exact ih w'
      | error e w' => rfl
  | attempt scope ip =>
    simp only [Call.perform, Call.jobs, hfaults, countAll, List.forM_cons, List.forM_nil]
    rw [EStateM.run_bind, run_discard, run_discard, run_recordAttempt_eq, run_map]
    cases (countUp (attemptJob env.settings scope ip)).run w with
    | ok count w' => rfl
    | error e w' => rfl

/-- Calls that nothing interferes with advance all their counters one after another. -/
theorem run_forM_perform {env : AuditEnv} (hfaults : env.faults = healthyCache) (calls : List Call)
    (w : World) : (forM calls (Call.perform env)).run w =
      (countAll (calls.flatMap (Call.jobs env.settings))).run w := by
  induction calls generalizing w with
  | nil => rfl
  | cons call rest ih =>
    have happend : countAll ((call :: rest).flatMap (Call.jobs env.settings)) =
        countAll (call.jobs env.settings) >>= fun _ =>
          countAll (rest.flatMap (Call.jobs env.settings)) := by
      unfold countAll
      rw [List.flatMap_cons, List.forM_append]
    rw [happend, List.forM_cons, EStateM.run_bind, EStateM.run_bind, run_perform hfaults]
    cases (countAll (call.jobs env.settings)).run w with
    | ok u w' => exact ih w'
    | error e w' => rfl

/-! ## Interleavings -/

/-- What a worker has left to count, and whether it has seeded the first of them. -/
structure CountWorker where
  jobs : List CountJob
  seeded : Bool

/-- An increment: its counter, its answer and the records it emitted. -/
structure CountEvent where
  job : CountJob
  count : Option ℕ
  emitted : List LogRecord

/-- The next cache call of a worker; an exception ends it. -/
def CountWorker.advance (worker : CountWorker) (w : World) :
    CountWorker × World × List CountEvent :=
  match worker.jobs, worker.seeded with
  | [], _ => (worker, w, [])
  | job :: rest, false => (⟨job :: rest, true⟩, finalState ((seedJob job).run w), [])
  | job :: rest, true =>
    match (countJob job).run w with
    | .ok count w' => (⟨rest, false⟩, w', [⟨job, count, w'.log.drop w.log.length⟩])
    | .error _ w' => (⟨[], false⟩, w', [])

/-- The shared state, the workers, and the increments so far. -/
structure Counting where
  world : World
  workers : List CountWorker
  events : List CountEvent

/-- One step of the system. -/
def Counting.takeTurn (s : Counting) : Turn → Option Counting
  | .worker i => s.workers[i]?.map fun worker =>
      let (worker', world, events) := worker.advance s.world
      ⟨world, s.workers.set i worker', s.events ++ events⟩
  | .wait seconds => some { s with world := { s.world with cache := s.world.cache.tick seconds } }

/-- Workers about to make their calls. -/
def Counting.start (settings : Settings) (calls : List (List Call)) (w : World) : Counting where
  world := w
  workers := calls.map fun own => ⟨own.flatMap (Call.jobs settings), false⟩
  events := []

/-- Nothing is left to count. -/
def Counting.Finished (s : Counting) : Prop := ∀ worker ∈ s.workers, worker.jobs = []

/-- The increments of a counter. -/
def Counting.eventsOn (subject : Subject) (s : Counting) : List CountEvent :=
  s.events.filter (·.job.subject = subject)

/-! ## The counters behind the calls -/

/-- A counter without its records. -/
def CountJob.abstract (job : CountJob) : SharedCount.Job PyStr := ⟨job.subject.key, job.window⟩

/-- A worker without its records. -/
def CountWorker.abstract (worker : CountWorker) : SharedCount.Worker PyStr :=
  ⟨worker.jobs.map CountJob.abstract, worker.seeded⟩

/-- The answer of an increment. -/
def CountEvent.answer (e : CountEvent) : PyStr × Option ℕ := (e.job.subject.key, e.count)

/-- The cache, the counters that are left and the answers. -/
def Counting.abstract (s : Counting) : SharedCount.State PyStr :=
  ⟨s.world.cache, s.workers.map CountWorker.abstract, s.events.map CountEvent.answer⟩

/-- The workers interleaved in a way that the key does not expire. -/
def CountRun (key : PyStr) : Counting → Counting → Prop :=
  Run (fun s turn t => s.takeTurn turn = some t) (fun s turn => keepsKey key s.abstract turn)

/-- What a worker does to the cache is what its abstraction does. -/
theorem advance_abstract (worker : CountWorker) (w : World) :
    SharedCount.advance worker.abstract w.cache =
      ((worker.advance w).1.abstract, (worker.advance w).2.1.cache,
        (worker.advance w).2.2.map CountEvent.answer) := by
  obtain ⟨jobs, seeded⟩ := worker
  cases jobs with
  | nil => rfl
  | cons job rest =>
    cases seeded with
    | false => rfl
    | true =>
      simp only [SharedCount.advance, CountWorker.abstract, CountWorker.advance, List.map_cons,
        CountJob.abstract, run_countJob]
      cases w.cache.incr job.subject.key with
      | none => rfl
      | some pair => rfl

/-- A step of the workers is a step of their counters. -/
theorem takeTurn_abstract {s t : Counting} {turn : Turn} (h : s.takeTurn turn = some t) :
    SharedCount.takeTurn s.abstract turn = some t.abstract := by
  cases turn with
  | worker i =>
    obtain ⟨worker, hworker, rfl⟩ := Option.map_eq_some_iff.mp h
    have hget : s.abstract.workers[i]? = some worker.abstract := by
      simp [Counting.abstract, hworker]
    simp only [SharedCount.takeTurn, hget, Option.map_some]
    have hadvance := advance_abstract worker s.world
    simp only [Counting.abstract, hadvance, List.map_set, List.map_append]
  | wait seconds =>
    obtain rfl := Option.some.inj h
    rfl

theorem CountRun.abstract {key : PyStr} {s t : Counting} (h : CountRun key s t) :
    WindowRun key s.abstract t.abstract :=
  Run.refine h Counting.abstract fun _ turn _ hkeeps hstep =>
    ⟨turn, hkeeps, takeTurn_abstract hstep⟩

theorem advance_count (job : CountJob) (rest : List CountJob) (w : World) :
    CountWorker.advance ⟨job :: rest, true⟩ w =
      match (countJob job).run w with
      | .ok count w' => (⟨rest, false⟩, w', [⟨job, count, w'.log.drop w.log.length⟩])
      | .error _ w' => (⟨[], false⟩, w', []) := rfl

/-- A worker and the state after its next cache call. -/
def CountWorker.next (p : CountWorker × World) : CountWorker × World :=
  ((p.1.advance p.2).1, (p.1.advance p.2).2.1)

/-- A worker that nothing interferes with advances its counters one after another. -/
theorem iterate_next (jobs : List CountJob) (w : World) :
    (CountWorker.next^[2 * jobs.length] (⟨jobs, false⟩, w)).2 =
      finalState ((countAll jobs).run w) := by
  induction jobs generalizing w with
  | nil => rfl
  | cons job rest ih =>
    have hrun : (countAll (job :: rest)).run w =
        match (countUp job).run w with
        | .ok _ w' => (countAll rest).run w'
        | .error e w' => .error e w' := by
      unfold countAll
      rw [List.forM_cons, EStateM.run_bind, run_discard]
      cases (countUp job).run w <;> rfl
    have htwo : CountWorker.next^[2] (⟨job :: rest, false⟩, w) =
        CountWorker.next (⟨job :: rest, true⟩,
          { w with cache := (w.cache.add job.subject.key 0 job.window).2 }) := rfl
    rw [List.length_cons, Nat.mul_succ, Function.iterate_add_apply, htwo, hrun, run_countUp]
    unfold CountWorker.next
    rw [advance_count, run_countJob]
    cases (w.cache.add job.subject.key 0 job.window).2.incr job.subject.key with
    | none => exact ih _
    | some pair => exact ih _

/-! ## What is recorded -/

/-- The records that follow from the answer of an increment. -/
def CountEvent.records (e : CountEvent) : List LogRecord :=
  match e.count with
  | some count => if count = e.job.threshold then [e.job.alert] else []
  | none => [e.job.failure]

/-- The log has grown by the records of the increments, and every counter belongs to a call. -/
structure Recorded (settings : Settings) (log : List LogRecord) (s : Counting) : Prop where
  log : s.world.log = log ++ s.events.flatMap CountEvent.emitted
  emitted : ∀ e ∈ s.events, e.emitted = e.records
  left : ∀ worker ∈ s.workers, ∀ job ∈ worker.jobs, ∃ call : Call, job ∈ call.jobs settings
  done : ∀ e ∈ s.events, ∃ call : Call, e.job ∈ call.jobs settings

theorem advance_records (worker : CountWorker) (w : World) :
    (worker.advance w).2.1.log =
        w.log ++ (worker.advance w).2.2.flatMap CountEvent.emitted ∧
      (∀ e ∈ (worker.advance w).2.2, e.emitted = e.records ∧ e.job ∈ worker.jobs) ∧
      (worker.advance w).1.jobs ⊆ worker.jobs := by
  obtain ⟨jobs, seeded⟩ := worker
  cases jobs with
  | nil => simp [CountWorker.advance]
  | cons job rest =>
    cases seeded with
    | false => simp [CountWorker.advance, run_seedJob]
    | true =>
      simp only [CountWorker.advance, run_countJob]
      cases w.cache.incr job.subject.key with
      | none => simp [CountEvent.records]
      | some pair => simp [CountEvent.records]

section Runs

variable {settings : Settings} {log : List LogRecord}

theorem Recorded.takeTurn {s t : Counting} {turn : Turn} (h : Recorded settings log s)
    (hstep : s.takeTurn turn = some t) : Recorded settings log t := by
  cases turn with
  | worker i =>
    obtain ⟨worker, hworker, rfl⟩ := Option.map_eq_some_iff.mp hstep
    obtain ⟨hlog, hevents, hjobs⟩ := advance_records worker s.world
    have hmem := List.mem_of_getElem? hworker
    constructor
    · simp only [hlog, h.log, List.flatMap_append, List.append_assoc]
    · intro e he
      rcases List.mem_append.mp he with hold | hnew
      · exact h.emitted e hold
      · exact (hevents e hnew).1
    · intro other hother job hjob
      rcases List.mem_or_eq_of_mem_set hother with hold | rfl
      · exact h.left other hold job hjob
      · exact h.left worker hmem job (hjobs hjob)
    · intro e he
      rcases List.mem_append.mp he with hold | hnew
      · exact h.done e hold
      · exact h.left worker hmem e.job (hevents e hnew).2
  | wait seconds =>
    obtain rfl := Option.some.inj hstep
    exact ⟨h.log, h.emitted, h.left, h.done⟩

theorem recorded_start (settings : Settings) (calls : List (List Call)) (w : World) :
    Recorded settings w.log (.start settings calls w) := by
  constructor
  · simp [Counting.start]
  · simp [Counting.start]
  · intro worker hworker job hjob
    obtain ⟨own, -, rfl⟩ := List.mem_map.mp hworker
    obtain ⟨call, -, hcall⟩ := List.mem_flatMap.mp hjob
    exact ⟨call, hcall⟩
  · simp [Counting.start]

theorem recorded {key : PyStr} {calls : List (List Call)} {w : World} {t : Counting}
    (hrun : CountRun key (.start settings calls w) t) : Recorded settings w.log t :=
  invariant hrun (recorded_start settings calls w) fun _ _ _ hrecorded _ hstep =>
    hrecorded.takeTurn hstep

/-! ## Every count once -/

/-- What `validate_mcp_sql_settings` checks of the windows and thresholds. -/
structure Settings.AlertsValid (settings : Settings) : Prop where
  volumeThreshold : ∀ decision, ∀ entry ∈ (settings.volumeAlertThresholds decision).entries,
    0 < entry.2
  attemptWindow : 0 < settings.badTokenIpWindowSeconds
  attemptThreshold : 0 < settings.badTokenIpThreshold

/-- A counter of a call has a positive window. -/
theorem window_pos (hvalid : settings.AlertsValid) {call : Call} {job : CountJob}
    (h : job ∈ call.jobs settings) : 0 < job.window := by
  cases call with
  | queryVolume user decision =>
    obtain ⟨entry, hentry, rfl⟩ := List.mem_map.mp h
    exact (settings.volumeAlertThresholds decision).pos entry hentry
  | attempt scope ip =>
    obtain rfl := List.mem_singleton.mp h
    exact hvalid.attemptWindow

theorem opening_start (hvalid : settings.AlertsValid) {key : PyStr} (calls : List (List Call))
    {w : World} (hfresh : w.cache.live key = none) :
    Opening key (Counting.start settings calls w).abstract := by
  constructor
  · intro worker hworker
    obtain ⟨started, hstarted, rfl⟩ := List.mem_map.mp hworker
    obtain ⟨own, -, rfl⟩ := List.mem_map.mp hstarted
    rfl
  · exact hfresh
  · rfl
  · intro worker hworker job hjob _
    obtain ⟨started, hstarted, rfl⟩ := List.mem_map.mp hworker
    obtain ⟨counter, hcounter, rfl⟩ := List.mem_map.mp hjob
    obtain ⟨call, hcall⟩ := (recorded_start settings calls w).left started hstarted counter hcounter
    exact window_pos hvalid hcall

/-- The answers on the key of a counter are the counts of its increments. -/
theorem answersOn_abstract (subject : Subject) (s : Counting) :
    s.abstract.answersOn subject.key = (s.eventsOn subject).map CountEvent.count := by
  unfold State.answersOn Counting.abstract Counting.eventsOn
  simp only [List.filter_map, List.map_map]
  have hsame : ((fun answer : PyStr × Option ℕ => decide (answer.1 = subject.key)) ∘
      CountEvent.answer) = fun e => decide (e.job.subject = subject) := by
    funext e
    simp only [Function.comp_apply, CountEvent.answer, Subject.key_injective.eq_iff]
  rw [hsame]
  rfl

/-- How many increments of a counter the calls make. -/
def advances (settings : Settings) (subject : Subject) (calls : List Call) : ℕ :=
  (calls.flatMap (Call.jobs settings)).countP (·.subject = subject)

/-- What the workers have left at the start. -/
theorem left_start (subject : Subject) (calls : List (List Call)) (w : World) :
    (Counting.start settings calls w).abstract.left subject.key =
      advances settings subject calls.flatten := by
  unfold State.left Counting.abstract Counting.start advances
  simp only [List.map_map, List.flatMap_map]
  induction calls with
  | nil => rfl
  | cons own rest ih =>
    rw [List.flatMap_cons, List.countP_append, ih, List.flatten_cons, List.flatMap_append,
      List.countP_append]
    simp only [Function.comp_apply, CountWorker.abstract, List.countP_map, Function.comp_def,
      CountJob.abstract, Subject.key_injective.eq_iff]

/-- The counts on a subject are `1` to `n`, each once, and the records that came with them are one
alert once the threshold is among them, and nothing before. -/
structure CountedOnce (subject : Subject) (threshold n : ℕ) (isAlert : LogRecord → Prop)
    (t : Counting) : Prop where
  counts : (t.eventsOn subject).map CountEvent.count = (List.range' 1 n).map some
  alerts : ((t.eventsOn subject).flatMap CountEvent.emitted).length = if threshold ≤ n then 1 else 0
  isAlert : ∀ record ∈ (t.eventsOn subject).flatMap CountEvent.emitted, isAlert record

/-- Counts that are `1` to `n` come with one record when the threshold is among them. -/
theorem CountedOnce.of_counts {subject : Subject} {threshold n : ℕ} {isAlert : LogRecord → Prop}
    {t : Counting} (hrecorded : Recorded settings log t) (hpos : 0 < threshold)
    (hjobs : ∀ e ∈ t.eventsOn subject, e.job.threshold = threshold ∧ isAlert e.job.alert)
    (hcounts : (t.eventsOn subject).map CountEvent.count = (List.range' 1 n).map some) :
    CountedOnce subject threshold n isAlert t := by
  have hcounted : ∀ e ∈ t.eventsOn subject, e.emitted =
      if e.count = some threshold then [e.job.alert] else [] := by
    intro e he
    have hsome : e.count ∈ (List.range' 1 n).map some := by
      rw [← hcounts]
      exact List.mem_map_of_mem he
    obtain ⟨count, -, hcount⟩ := List.mem_map.mp hsome
    rw [hrecorded.emitted e (List.mem_of_mem_filter he), CountEvent.records, ← hcount,
      (hjobs e he).1]
    simp only [Option.some.injEq]
  have hlength : ∀ events : List CountEvent, (∀ e ∈ events, e.emitted =
      if e.count = some threshold then [e.job.alert] else []) →
      (events.flatMap CountEvent.emitted).length =
        (events.map CountEvent.count).count (some threshold) := by
    intro events hevents
    induction events with
    | nil => rfl
    | cons e rest ih =>
      have hrest := ih fun other hother => hevents other (List.mem_cons_of_mem _ hother)
      rw [List.flatMap_cons, List.length_append, hrest, hevents e (by simp), List.map_cons,
        List.count_cons]
      by_cases hcount : e.count = some threshold
      · simp [hcount, Nat.add_comm]
      · simp [hcount]
  constructor
  · exact hcounts
  · rw [hlength _ hcounted, hcounts, count_threshold hpos]
  · intro record hrecord
    obtain ⟨e, he, hmem⟩ := List.mem_flatMap.mp hrecord
    rw [hcounted e he] at hmem
    by_cases hcount : e.count = some threshold
    · rw [if_pos hcount] at hmem
      obtain rfl := List.mem_singleton.mp hmem
      exact (hjobs e he).2
    · rw [if_neg hcount] at hmem
      exact absurd hmem List.not_mem_nil

/-- The calls of one subject are counted once each, and the threshold is reported once, whatever the
other calls are and however the cache calls interleave. -/
theorem countedOnce_of_run (hvalid : settings.AlertsValid) {calls : List (List Call)} {w : World}
    (subject : Subject) {threshold : ℕ} {isAlert : LogRecord → Prop} {t : Counting}
    (hfresh : w.cache.live subject.key = none)
    (hrun : CountRun subject.key (.start settings calls w) t) (hpos : 0 < threshold)
    (hjobs : ∀ (call : Call), ∀ job ∈ call.jobs settings, job.subject = subject →
      job.threshold = threshold ∧ isAlert job.alert) :
    ∃ n, CountedOnce subject threshold n isAlert t ∧
      (t.Finished → n = advances settings subject calls.flatten) := by
  have hrecorded := recorded hrun
  have hcounted := counted hrun.abstract (opening_start hvalid calls hfresh)
  have hevents : ∀ e ∈ t.eventsOn subject, e.job.threshold = threshold ∧ isAlert e.job.alert := by
    intro e he
    obtain ⟨hmem, hsubject⟩ := List.mem_filter.mp he
    obtain ⟨call, hcall⟩ := hrecorded.done e hmem
    exact hjobs call e.job hcall (of_decide_eq_true hsubject)
  refine ⟨t.world.cache.count subject.key, ?_, ?_⟩
  · apply CountedOnce.of_counts hrecorded hpos hevents
    have hanswers := hcounted.answers
    rw [answersOn_abstract] at hanswers
    exact hanswers
  · intro hfinished
    have hbalance := hcounted.balance
    have hleft : t.abstract.left subject.key = 0 := by
      unfold State.left
      rw [List.countP_eq_zero]
      intro job hjob
      obtain ⟨worker', hworker', hmem⟩ := List.mem_flatMap.mp hjob
      obtain ⟨worker, hworker, rfl⟩ := List.mem_map.mp hworker'
      simp [CountWorker.abstract, hfinished worker hworker] at hmem
    rw [left_start] at hbalance
    rw [← hbalance, hleft]
    rfl

end Runs

/-! ## The two tripwires -/

/-- A call of `record_query_volume` for the user and the decision. -/
def Call.isQueryOf (userId : PyStr) (decision : Decision) : Call → Bool
  | queryVolume user decision' => user.pk = userId && decision' = decision
  | attempt _ _ => false

/-- A call of `record_attempt` for the scope and the IP. -/
def Call.isAttemptOf (scope : Scope) (ip : PyStr) : Call → Bool
  | queryVolume _ _ => false
  | attempt scope' ip' => scope' = scope && ip' = ip

/-- Counting in the lists of elements that each contribute one or none counts the elements. -/
theorem countP_flatMap_of_boole {α β : Type} {p : α → Bool} {q : β → Bool} {f : α → List β}
    (h : ∀ x, (f x).countP q = if p x then 1 else 0) (xs : List α) :
    (xs.flatMap f).countP q = xs.countP p := by
  induction xs with
  | nil => rfl
  | cons x xs ih => rw [List.flatMap_cons, List.countP_append, ih, h, List.countP_cons, Nat.add_comm]

/-- A call for the user and the decision advances each configured window once, any other call none
of them. -/
theorem advances_volume {settings : Settings} {decision : Decision} {entry : ℕ × ℕ}
    (hentry : entry ∈ (settings.volumeAlertThresholds decision).entries) (userId : PyStr)
    (calls : List Call) : advances settings (.volume userId decision entry.1) calls =
      calls.countP (Call.isQueryOf userId decision) := by
  refine countP_flatMap_of_boole (fun call => ?_) calls
  cases call with
  | attempt scope ip => simp [Call.jobs, attemptJob, Call.isQueryOf]
  | queryVolume user decision' =>
    unfold Call.jobs Call.isQueryOf
    rw [List.countP_map]
    by_cases hsame : user.pk = userId ∧ decision' = decision
    · obtain ⟨rfl, rfl⟩ := hsame
      have hone := List.count_eq_one_of_mem
        (settings.volumeAlertThresholds decision').nodup (List.mem_map_of_mem (f := Prod.fst) hentry)
      rw [List.count, List.countP_map] at hone
      simpa [Function.comp_def, volumeJob, beq_eq_decide] using hone
    · have hnot : ¬(user.pk = userId && decision' = decision) = true := by simpa using hsame
      rw [if_neg hnot, List.countP_eq_zero]
      intro other _ hsubject
      refine hsame ?_
      simp only [Function.comp_apply, volumeJob, decide_eq_true_eq, Subject.volume.injEq]
        at hsubject
      exact ⟨hsubject.1, hsubject.2.1⟩

theorem advances_attempt (settings : Settings) (scope : Scope) (ip : PyStr) (calls : List Call) :
    advances settings (.attempt scope ip) calls = calls.countP (Call.isAttemptOf scope ip) := by
  refine countP_flatMap_of_boole (fun call => ?_) calls
  cases call with
  | queryVolume user decision =>
    simp [Call.jobs, Call.isAttemptOf, volumeJob, List.countP_map]
  | attempt scope' ip' => simp [Call.jobs, Call.isAttemptOf, attemptJob]

/-- The alert of a window of a user's decision. -/
def IsVolumeAlert (userId : PyStr) (decision : Decision) (window threshold : ℕ)
    (record : LogRecord) : Prop :=
  ∃ user : User, user.pk = userId ∧
    record = ⟨.error, volumeMessage user decision threshold window threshold⟩

/-- The warning of a scope and an IP. -/
def IsAttemptWarning (settings : Settings) (scope : Scope) (ip : PyStr) (record : LogRecord) :
    Prop :=
  record = ⟨.warning, blockMessage scope.name ip settings.badTokenIpThreshold
    settings.badTokenIpWindowSeconds settings.badTokenIpThreshold⟩

/-- A job on a configured window of a user has the window's threshold and alert. -/
theorem job_of_volume {settings : Settings} {userId : PyStr} {decision : Decision} {entry : ℕ × ℕ}
    (hentry : entry ∈ (settings.volumeAlertThresholds decision).entries) {call : Call}
    {job : CountJob} (hjob : job ∈ call.jobs settings)
    (hsubject : job.subject = .volume userId decision entry.1) :
    job.threshold = entry.2 ∧ IsVolumeAlert userId decision entry.1 entry.2 job.alert := by
  cases call with
  | queryVolume user decision' =>
    obtain ⟨other, hother, rfl⟩ := List.mem_map.mp hjob
    obtain ⟨rfl, rfl, hwindow⟩ := Subject.volume.inj hsubject
    obtain rfl : other = entry :=
      List.inj_on_of_nodup_map (settings.volumeAlertThresholds decision').nodup hother hentry
        hwindow
    exact ⟨rfl, user, rfl, rfl⟩
  | attempt scope ip =>
    obtain rfl := List.mem_singleton.mp hjob
    exact absurd hsubject (by simp [attemptJob])

/-- A job on the attempts of an IP in a scope has the threshold and the warning of the throttle. -/
theorem job_of_attempt {settings : Settings} {scope : Scope} {ip : PyStr} {call : Call}
    {job : CountJob} (hjob : job ∈ call.jobs settings) (hsubject : job.subject = .attempt scope ip) :
    job.threshold = settings.badTokenIpThreshold ∧
      IsAttemptWarning settings scope ip job.alert := by
  cases call with
  | queryVolume user decision =>
    obtain ⟨other, -, rfl⟩ := List.mem_map.mp hjob
    exact absurd hsubject (by simp [volumeJob])
  | attempt scope' ip' =>
    obtain rfl := List.mem_singleton.mp hjob
    obtain ⟨rfl, rfl⟩ := Subject.attempt.inj hsubject
    exact ⟨rfl, rfl⟩

/-- However the cache calls of any number of workers interleave while the key does not expire, the
calls for one user and decision count `1`, `2`, … in every window, as many as there are of them in
the end, and one of them reports the threshold once it is reached; the same holds of the attempts
of one scope and IP.  What is reported is what has been logged.  A worker that nothing interferes
with does what its calls do. -/
theorem threshold_alerts_once {settings : Settings} (hvalid : settings.AlertsValid)
    (calls : List (List Call)) (w : World) :
    (∀ (userId : PyStr) (decision : Decision),
      ∀ entry ∈ (settings.volumeAlertThresholds decision).entries,
        w.cache.live (volumeKey decision entry.1 userId) = none →
        ∀ t, CountRun (volumeKey decision entry.1 userId) (.start settings calls w) t →
          t.world.log = w.log ++ t.events.flatMap CountEvent.emitted ∧
          ∃ n, CountedOnce (.volume userId decision entry.1) entry.2 n
              (IsVolumeAlert userId decision entry.1 entry.2) t ∧
            (t.Finished → n = calls.flatten.countP (Call.isQueryOf userId decision))) ∧
    (∀ (scope : Scope) (ip : PyStr), w.cache.live (ipKey scope.name ip) = none →
      ∀ t, CountRun (ipKey scope.name ip) (.start settings calls w) t →
        t.world.log = w.log ++ t.events.flatMap CountEvent.emitted ∧
        ∃ n, CountedOnce (.attempt scope ip) settings.badTokenIpThreshold n
            (IsAttemptWarning settings scope ip) t ∧
          (t.Finished → n = calls.flatten.countP (Call.isAttemptOf scope ip))) ∧
    ∀ env : AuditEnv, env.faults = healthyCache → env.settings = settings →
      ∀ (own : List Call) (before : World),
        let jobs := own.flatMap (Call.jobs settings)
        finalState ((forM own (Call.perform env)).run before) =
          (CountWorker.next^[2 * jobs.length] (⟨jobs, false⟩, before)).2 := by
  refine ⟨?_, ?_, ?_⟩
  · intro userId decision entry hentry hfresh t hrun
    have hlog := (recorded hrun).log
    obtain ⟨n, honce, htotal⟩ := countedOnce_of_run hvalid
      (.volume userId decision entry.1) hfresh hrun
      (hvalid.volumeThreshold decision entry hentry) fun call job => job_of_volume hentry
    refine ⟨hlog, n, honce, fun hfinished => ?_⟩
    exact (htotal hfinished).trans (advances_volume hentry userId calls.flatten)
  · intro scope ip hfresh t hrun
    have hlog := (recorded hrun).log
    obtain ⟨n, honce, htotal⟩ := countedOnce_of_run hvalid (.attempt scope ip) hfresh hrun
      hvalid.attemptThreshold fun call job => job_of_attempt
    refine ⟨hlog, n, honce, fun hfinished => ?_⟩
    exact (htotal hfinished).trans (advances_attempt settings scope ip calls.flatten)
  · rintro env hfaults rfl own before
    exact (congrArg finalState (run_forM_perform hfaults own before)).trans
      (iterate_next _ before).symm

/-- The example settings with an alert at the second query of a minute. -/
def twoQuerySettings : Settings :=
  { exampleSettings with volumeAlertThresholds := fun _ => ⟨[(60, 2)], by decide, by decide⟩ }

/-- Two workers query for one user, and one of them counts an attempt, too. -/
def twoWorkers : List (List Call) :=
  let user : User := ⟨lit "7", lit "amina", true, true⟩
  [[.queryVolume user .allowed],
    [.queryVolume user .allowed, .attempt ⟨lit "register", by decide⟩ (lit "203.0.113.7")]]

theorem alertsValid_twoQuerySettings : twoQuerySettings.AlertsValid where
  volumeThreshold decision entry hentry := by
    obtain rfl := List.mem_singleton.mp hentry
    decide
  attemptWindow := by decide
  attemptThreshold := by decide

/-- Both workers seed before either counts, and the second count is the alert. -/
theorem threshold_alerts_once_interleaved : ∃ t, t.Finished ∧
    CountedOnce (.volume (lit "7") .allowed 60) 2 2
      (IsVolumeAlert (lit "7") .allowed 60 2) t := by
  let turns := [Turn.worker 0, .worker 1, .wait 30, .worker 0, .worker 1, .worker 1, .worker 1]
  have hreplay : ((replay Counting.takeTurn
      (fun s turn => keepsKey (volumeKey .allowed 60 (lit "7")) s.abstract turn) turns
      (.start twoQuerySettings twoWorkers emptyWorld)).map fun t =>
        t.workers.all fun worker => worker.jobs.isEmpty) = some true := by decide
  obtain ⟨t, hrun, hdone⟩ := Option.map_eq_some_iff.mp hreplay
  have hfinished : t.Finished := by
    intro worker hworker
    exact List.isEmpty_iff.mp (List.all_eq_true.mp hdone worker hworker)
  obtain ⟨-, n, honce, htotal⟩ :=
    (threshold_alerts_once alertsValid_twoQuerySettings twoWorkers emptyWorld).1 (lit "7") .allowed
      (60, 2) (by decide) rfl t (run_of_replay hrun)
  obtain rfl : n = 2 := (htotal hfinished).trans (by decide)
  exact ⟨t, hfinished, honce⟩

end McpSql
