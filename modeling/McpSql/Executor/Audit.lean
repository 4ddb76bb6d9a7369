import McpSql.Conf
import McpSql.Foundations.Raising
import McpSql.Throttle

/-!
# The audit row and the volume tripwire

`_audit_safely` (`executor.py`) and `record_query_volume` (`observability.py`): the best-effort
insert of an `MCPQueryLog` row, and the counters every stored row advances.
-/

namespace McpSql

open Python PyStr Effect FixedWindow Raising

/-- What the executor's audit depends on: the settings, the cache, and the database's answer to the
insert of a row. -/
structure AuditEnv where
  settings : Settings
  faults : CacheFaults
  createRow : QueryLogRow → Except PyExc Unit

/-! ## The volume tripwire -/

/-- `_volume_key`. -/
def volumeKey (decision : Decision) (window : ℕ) (userId : PyStr) : PyStr :=
  lit "mcp_sql:vol:" ++ decision.value ++ lit ":" ++ ofNat window ++ (lit ":" ++ userId)

/-- The alert at the query that reaches a threshold. -/
def volumeMessage (user : User) (decision : Decision) (count window threshold : ℕ) : PyStr :=
  lit "MCP query-volume tripwire: user=" ++
    (if user.username = [] then lit "?" else user.username) ++ lit " (pk=" ++ user.pk ++
    lit ") decision=" ++ decision.value ++ lit " reached " ++ ofNat count ++ lit " within a " ++
    ofNat window ++ lit "s window (threshold=" ++ ofNat threshold ++
    lit ") — alert only, the query was not blocked."

/-- The count for one window. -/
def countWindow (env : AuditEnv) (user : User) (decision : Decision) (window threshold : ℕ) :
    Py Unit := do
  let count ← catching isOutage
    (some <$> seedAndIncr env.faults (.volumeAdd window) (.volumeIncr window)
      (volumeKey decision window user.pk) window)
    (fun _ => do
      emit .warning (lit "MCP volume counter increment failed (user=" ++ user.pk ++
        lit " decision=" ++ decision.value ++ lit " window=" ++ ofNat window ++ lit "s)")
      return none)
  if count = some threshold then
    emit .error (volumeMessage user decision threshold window threshold)

/-- `record_query_volume`. -/
def recordQueryVolume (env : AuditEnv) (user : User) (decision : Decision) : Py Unit :=
  forM (env.settings.volumeAlertThresholds decision).entries fun entry =>
    countWindow env user decision entry.1 entry.2

/-! ## The audit row -/

/-- `MCPQueryLog.objects.create`. -/
def createQueryLogRow (env : AuditEnv) (row : QueryLogRow) : Py Unit := do
  modify fun w => { w with queryLogAttempts := w.queryLogAttempts ++ [row] }
  call (env.createRow row)
  modify fun w => { w with queryLog := w.queryLog ++ [row] }

/-- The log message of a row that could not be written. -/
def auditWriteFailedMessage (row : QueryLogRow) : PyStr :=
  lit "MCP audit row write failed (reason=" ++
    (if row.rejectionReason = [] then lit "<allowed>" else row.rejectionReason) ++
    lit "); response returned anyway"

/-- `_audit_safely`. -/
def auditSafely (env : AuditEnv) (user : User) (row : QueryLogRow) : Py Unit := do
  let stored ← catching PyExc.isDatabaseError
    (do
      createQueryLogRow env row
      return true)
    (fun _ => do
      emit .exception (auditWriteFailedMessage row)
      return false)
  if stored then
    catching PyExc.isException (recordQueryVolume env user row.decision) fun _ =>
      emit .exception (lit "MCP volume tripwire failed; query response unaffected")

/-! ## What the audit leaves behind -/

theorem keeps_countWindow (env : AuditEnv) (user : User) (decision : Decision)
    (window threshold : ℕ) : Keeps SameTables (countWindow env user decision window threshold) := by
  unfold countWindow
  refine .bind SameTables.trans (.catching SameTables.trans (.map some ?_) fun _ => ?_)
    fun count => ?_
  · exact keeps_seedAndIncr _ _ _ _ _
  · exact .bind SameTables.trans (keeps_emit _ _) fun _ => .pure SameTables.refl _
  · by_cases hcount : count = some threshold
    · simp only [hcount, if_true]
      exact keeps_emit _ _
    · simp only [hcount, if_false]
      exact .pure SameTables.refl _

theorem keeps_recordQueryVolume (env : AuditEnv) (user : User) (decision : Decision) :
    Keeps SameTables (recordQueryVolume env user decision) :=
  .forM SameTables.refl SameTables.trans fun _ _ => keeps_countWindow _ _ _ _ _

/-- An exception of the tripwire is one its guard catches. -/
theorem raisesOnly_recordQueryVolume (env : AuditEnv) (user : User) (decision : Decision) :
    RaisesOnly (fun e => e.isException = true) (recordQueryVolume env user decision) := by
  refine .forM fun entry => ?_
  unfold countWindow
  refine .bind (.catching (.map some ?_) fun _ => ?_) fun count => ?_
  · exact raisesOnly_seedAndIncr _ _ _ _ _
  · exact .bind (.modify _) fun _ => .pure _
  · split
    · exact .modify _
    · exact .pure _

/-- The guarded tripwire raises nothing and touches no table. -/
theorem run_guardedVolume (env : AuditEnv) (user : User) (decision : Decision) (w : World) :
    ∃ cache log, (catching PyExc.isException (recordQueryVolume env user decision) fun _ =>
        emit .exception (lit "MCP volume tripwire failed; query response unaffected")).run w =
      .ok () { w with cache := cache, log := log } := by
  obtain ⟨cache, log, hstate⟩ := keeps_recordQueryVolume env user decision w
  have hraises := raisesOnly_recordQueryVolume env user decision w
  rw [run_catching]
  cases hrun : (recordQueryVolume env user decision).run w with
  | ok u w' =>
    rw [hrun] at hstate
    exact ⟨cache, log, by rw [← hstate]; rfl⟩
  | error e w' =>
    rw [hrun] at hstate hraises
    have hcaught := hraises e rfl
    obtain rfl : w' = { w with cache := cache, log := log } := hstate
    exact ⟨cache, _, by simp only [hcaught, if_true, run_emit]; rfl⟩

/-- The audit attempts one row.  A `DatabaseError` of the insert is logged and any other exception
escapes; the tripwire raises nothing. -/
theorem run_auditSafely (env : AuditEnv) (user : User) (row : QueryLogRow) (w : World) :
    match env.createRow row with
    | .ok _ => ∃ cache log, (auditSafely env user row).run w = .ok () { w with
        cache := cache
        log := log
        queryLogAttempts := w.queryLogAttempts ++ [row]
        queryLog := w.queryLog ++ [row] }
    | .error e =>
      if e.isDatabaseError then
        ∃ log, (auditSafely env user row).run w = .ok () { w with
          log := log
          queryLogAttempts := w.queryLogAttempts ++ [row] }
      else (auditSafely env user row).run w = .error e { w with
        queryLogAttempts := w.queryLogAttempts ++ [row] } := by
  unfold auditSafely createQueryLogRow
  simp only [EStateM.run_bind, run_catching, EStateM.run_modify]
  cases hcreate : env.createRow row with
  | ok u => exact run_guardedVolume env user row.decision _
  | error e =>
    by_cases hdatabase : e.isDatabaseError = true
    · simp [hdatabase]
    · simp [hdatabase]

/-- Whatever the database answers, the audit attempts its one row and touches no other table. -/
theorem finalState_auditSafely (env : AuditEnv) (user : User) (row : QueryLogRow) (w : World) :
    ∃ cache log stored, finalState ((auditSafely env user row).run w) = { w with
      cache := cache
      log := log
      queryLogAttempts := w.queryLogAttempts ++ [row]
      queryLog := stored } := by
  have hrun := run_auditSafely env user row w
  cases hcreate : env.createRow row with
  | ok u =>
    rw [hcreate] at hrun
    obtain ⟨cache, log, hrun⟩ := hrun
    exact ⟨cache, log, _, by rw [hrun, finalState_ok]⟩
  | error e =>
    rw [hcreate] at hrun
    by_cases hdatabase : e.isDatabaseError = true
    · simp only [hdatabase, if_true] at hrun
      obtain ⟨log, hrun⟩ := hrun
      exact ⟨w.cache, log, w.queryLog, by rw [hrun, finalState_ok]⟩
    · simp only [hdatabase, Bool.false_eq_true, if_false] at hrun
      exact ⟨w.cache, w.log, w.queryLog, by rw [hrun, finalState_error]⟩

theorem queryLogAttempts_auditSafely (env : AuditEnv) (user : User) (row : QueryLogRow)
    (w : World) : (finalState ((auditSafely env user row).run w)).queryLogAttempts =
      w.queryLogAttempts ++ [row] := by
  obtain ⟨cache, log, stored, hfinal⟩ := finalState_auditSafely env user row w
  rw [hfinal]

/-- An insert that raises nothing but a `DatabaseError` does not stop the answer. -/
theorem auditSafely_returns {env : AuditEnv} {row : QueryLogRow}
    (h : Confined PyExc.isDatabaseError (env.createRow row)) (user : User) (w : World) :
    ∃ w', (auditSafely env user row).run w = .ok () w' := by
  have hrun := run_auditSafely env user row w
  cases hcreate : env.createRow row with
  | ok u =>
    rw [hcreate] at hrun
    obtain ⟨cache, log, hrun⟩ := hrun
    exact ⟨_, hrun⟩
  | error e =>
    rw [hcreate] at hrun
    simp only [h e hcreate, if_true] at hrun
    obtain ⟨log, hrun⟩ := hrun
    exact ⟨_, hrun⟩

/-! ## On a cache that works -/

/-- The counter of each configured window has advanced by one. -/
def VolumeCounted (settings : Settings) (user : User) (decision : Decision)
    (before after : Cache PyStr) : Prop :=
  ∀ entry ∈ (settings.volumeAlertThresholds decision).entries,
    after.count (volumeKey decision entry.1 user.pk) =
      before.count (volumeKey decision entry.1 user.pk) + 1

/-- Each window has its own key. -/
theorem volumeKey_injective {decision : Decision} {window window' : ℕ} {userId : PyStr}
    (h : volumeKey decision window userId = volumeKey decision window' userId) :
    window = window' := by
  unfold volumeKey at h
  have hstem := List.append_cancel_right h
  exact ofNat_injective (List.append_cancel_left hstem)

theorem run_countWindow_healthy {env : AuditEnv} (hfaults : env.faults = healthyCache)
    (user : User) (decision : Decision) {window : ℕ} (hpos : 0 < window) (threshold : ℕ)
    (w : World) :
    ∃ cache log, (countWindow env user decision window threshold).run w =
        .ok () { w with cache := cache, log := log } ∧
      cache.count (volumeKey decision window user.pk) =
        w.cache.count (volumeKey decision window user.pk) + 1 ∧
      ∀ k, k ≠ volumeKey decision window user.pk → cache.count k = w.cache.count k := by
  obtain ⟨cache, hrun, hcount, hother⟩ := run_seedAndIncr_healthy (.volumeAdd window)
    (.volumeIncr window) (volumeKey decision window user.pk) hpos w
  unfold countWindow
  rw [hfaults, EStateM.run_bind, run_catching, run_map, hrun]
  by_cases hthreshold : some (w.cache.count (volumeKey decision window user.pk) + 1) =
      some threshold
  · exact ⟨cache, _, by simp only [hthreshold, if_true]; rfl, hcount, hother⟩
  · exact ⟨cache, w.log, by simp only [hthreshold, if_false]; rfl, hcount, hother⟩

/-- Counting windows one after another advances each of them once. -/
theorem run_countWindows_healthy {env : AuditEnv} (hfaults : env.faults = healthyCache)
    (user : User) (decision : Decision) (entries : List (ℕ × ℕ))
    (hnodup : (entries.map Prod.fst).Nodup) (hpos : ∀ entry ∈ entries, 0 < entry.1) (w : World) :
    ∃ cache log, (forM entries fun entry =>
        countWindow env user decision entry.1 entry.2 : Py Unit).run w =
          .ok () { w with cache := cache, log := log } ∧
      (∀ entry ∈ entries, cache.count (volumeKey decision entry.1 user.pk) =
        w.cache.count (volumeKey decision entry.1 user.pk) + 1) ∧
      ∀ k, (∀ entry ∈ entries, k ≠ volumeKey decision entry.1 user.pk) →
        cache.count k = w.cache.count k := by
  induction entries generalizing w with
  | nil => exact ⟨w.cache, w.log, rfl, by simp, fun k _ => rfl⟩
  | cons entry rest ih =>
    rw [List.map_cons, List.nodup_cons] at hnodup
    obtain ⟨cache, log, hrun, hcount, hother⟩ := run_countWindow_healthy hfaults user decision
      (hpos entry (by simp)) entry.2 w
    obtain ⟨cache', log', hrun', hcount', hother'⟩ := ih hnodup.2
      (fun e he => hpos e (List.mem_cons_of_mem _ he)) { w with cache := cache, log := log }
    have hfresh : ∀ e ∈ rest,
        volumeKey decision entry.1 user.pk ≠ volumeKey decision e.1 user.pk := by
      intro e he hkey
      exact hnodup.1 (List.mem_map.mpr ⟨e, he, (volumeKey_injective hkey).symm⟩)
    refine ⟨cache', log', ?_, ?_, ?_⟩
    · rw [List.forM_cons, EStateM.run_bind, hrun]
      exact hrun'
    · intro e he
      rcases List.mem_cons.mp he with rfl | he
      · rw [hother' _ hfresh, hcount]
      · rw [hcount' e he, hother _ (hfresh e he).symm]
    · intro k hk
      rw [hother' k fun e he => hk e (List.mem_cons_of_mem _ he), hother k (hk entry (by simp))]

/-- A stored row is counted in every window of its decision. -/
theorem run_auditSafely_stored {env : AuditEnv} (hfaults : env.faults = healthyCache) (user : User)
    {row : QueryLogRow} (hstored : env.createRow row = .ok ()) (w : World) :
    ∃ cache log, (auditSafely env user row).run w = .ok () { w with
        cache := cache
        log := log
        queryLogAttempts := w.queryLogAttempts ++ [row]
        queryLog := w.queryLog ++ [row] } ∧
      VolumeCounted env.settings user row.decision w.cache cache := by
  obtain ⟨cache, log, hrun, hcount, -⟩ := run_countWindows_healthy hfaults user row.decision
    (env.settings.volumeAlertThresholds row.decision).entries
    (env.settings.volumeAlertThresholds row.decision).nodup
    (env.settings.volumeAlertThresholds row.decision).pos
    { w with
      queryLogAttempts := w.queryLogAttempts ++ [row]
      queryLog := w.queryLog ++ [row] }
  refine ⟨cache, log, ?_, hcount⟩
  unfold auditSafely createQueryLogRow recordQueryVolume
  simp only [EStateM.run_bind, run_catching, EStateM.run_modify, hstored, run_call_ok,
    EStateM.run_pure, if_true, hrun]

end McpSql
