import McpSql.Executor.RunQuery

/-!
# How a query ends

`run_query` interleaves its steps with the audit of each way they can end.  Here the two are kept
apart: the steps lead to an ending, or raise; an ending determines the audit row and the answer.
`runQuery_eq` says that `run_query` is its steps followed by the audit of their ending, so that a
property of its audit is a property of endings.
-/

namespace McpSql

open Python PyStr Effect GreedyPrefix Raising

/-- An ending of `run_query` that is audited. -/
inductive Ending where
  | misconfigured (message : PyStr)
  | rejected (exc : QueryRejectedError)
  | metadataOnly (normalizedSql : PyStr)
  | tooDeep (normalizedSql : PyStr)
  | hookFailed (normalizedSql wrappedSql text : PyStr)
  | databaseError (normalizedSql wrappedSql text : PyStr) (reason : OutcomeReason)
  | answered (normalizedSql wrappedSql : PyStr) (columns : List PyStr)
      (capped : Kept (List Cell)) (truncated : Bool)

namespace Ending

/-- The error text of the ending. -/
def error : Ending → PyStr
  | misconfigured message => message
  | rejected exc => exc.detail
  | tooDeep _ => lit "SQL nesting is too deep to serialize"
  | hookFailed _ _ text => lit "SESSION_CONTEXT hook failure: " ++ text
  | databaseError _ _ text _ => text
  | metadataOnly _ | answered _ _ _ _ _ => []

/-- The error that is logged for the operator. -/
def alert : Ending → Option PyStr
  | misconfigured message => some message
  | hookFailed normalizedSql wrappedSql text =>
    some (hookFailed normalizedSql wrappedSql text).error
  | _ => none

/-- The audit row. -/
def row (env : ExecutorEnv) (q : QueryCall) (ending : Ending) : QueryLogRow :=
  match ending with
  | misconfigured message => { q.row env.startedAt .rejected with
      rejectionReason := OutcomeReason.misconfigured.value
      error := message }
  | rejected exc => { q.row env.startedAt .rejected with
      rejectionReason := exc.reason.value
      error := exc.detail }
  | metadataOnly normalizedSql => { q.row env.startedAt .allowed with
      normalizedSql := normalizedSql
      durationMs := some 0
      rowCount := some 0
      resultBytes := some 0 }
  | tooDeep normalizedSql => { q.row env.startedAt .rejected with
      rejectionReason := OutcomeReason.parseError.value
      normalizedSql := normalizedSql
      error := (tooDeep normalizedSql).error }
  | hookFailed normalizedSql wrappedSql text => { q.row env.startedAt .rejected with
      rejectionReason := OutcomeReason.misconfigured.value
      normalizedSql := normalizedSql
      wrappedSql := wrappedSql
      error := (hookFailed normalizedSql wrappedSql text).error }
  | databaseError normalizedSql wrappedSql text reason => { q.row env.startedAt .allowed with
      rejectionReason := reason.value
      normalizedSql := normalizedSql
      wrappedSql := wrappedSql
      durationMs := some env.durationMs
      error := text }
  | answered normalizedSql wrappedSql _ capped truncated => { q.row env.startedAt .allowed with
      normalizedSql := normalizedSql
      wrappedSql := wrappedSql
      durationMs := some env.durationMs
      rowCount := some capped.kept.length
      truncated := truncated
      resultBytes := some capped.total }

/-- The result of an ending with an outcome code. -/
def refusal (reason : OutcomeReason) (error : PyStr) : QueryResult where
  rejectionReason := some reason
  hint := reason.hint
  error := error

/-- What the caller gets. -/
def answer (env : ExecutorEnv) : Ending → Except PyExc QueryResult
  | misconfigured message => .error (.executorMisconfigured message)
  | rejected exc => .ok (refusal exc.reason exc.detail)
  | metadataOnly _ => .ok { rowCount := 0, durationMs := 0 }
  | tooDeep normalizedSql => .ok (refusal .parseError (tooDeep normalizedSql).error)
  | hookFailed normalizedSql wrappedSql text =>
    .ok (refusal .misconfigured (hookFailed normalizedSql wrappedSql text).error)
  | databaseError _ _ text reason =>
    .ok { refusal reason text with durationMs := env.durationMs }
  | answered _ _ columns capped truncated => .ok
      { columns := columns, rows := capped.kept, rowCount := capped.kept.length,
        truncated := truncated, durationMs := env.durationMs,
        hint := if truncated then truncatedHint else [] }

end Ending

/-- The alert, the audit and the answer of an ending. -/
def conclude (env : ExecutorEnv) (q : QueryCall) (ending : Ending) : Py QueryResult := do
  match ending.alert with
  | some error => emit .error (misconfiguredMessage error)
  | none => pure ()
  auditSafely env.toAuditEnv q.user (ending.row env q)
  call (ending.answer env)

/-- Steps whose ending is audited. -/
def audited (env : ExecutorEnv) (q : QueryCall) (steps : Session Ending) : Py QueryResult := do
  match ← runSession steps with
  | .ok ending => conclude env q ending
  | .error e => raise e

/-! ## The steps alone -/

section Steps

variable [UnicodeDatabase]

/-- The ending a read leads to. -/
def readEnding (env : ExecutorEnv) (normalizedSql wrappedSql : PyStr) (explicit : List ℤ) :
    Except PyExc (List (List Value) × List PyStr) → Except PyExc Ending
  | .ok (rawRows, columns) => do
    let limits := env.settings.limits
    let effective := effectiveLimit limits explicit
    let truncatedByCount := !userConstrained limits explicit && effective < rawRows.length
    let capped ← capRows limits.bytesLimit (rawRows.take effective.toNat)
    return .answered normalizedSql wrappedSql columns capped (truncatedByCount || capped.cut)
  | .error exc =>
    if exc.isDatabaseError then do
      return .databaseError normalizedSql wrappedSql (← exc.str) (classifyDbError exc)
    else .error exc

/-- The steps of `runWrapped`. -/
def wrappedSteps (env : ExecutorEnv) (q : QueryCall) (parsed : ParsedQuery) (wrappedSql : PyStr)
    (explicit : List ℤ) : Session Ending :=
  if env.connection.aliasName ≠ env.settings.dbAlias then
    return .misconfigured (lit "connections[" ++ PyStr.repr env.settings.dbAlias ++
      lit "] resolved to a different alias")
  else
    match resolveSessionContext env q with
    | .ok sessionContext => do
      let read ← attempt
        (readTransaction env.connection q.profile.role sessionContext wrappedSql)
      call (readEnding env parsed.normalizedSql wrappedSql explicit read)
    | .error exc =>
      if exc.isException then do
        return .hookFailed parsed.normalizedSql wrappedSql (← call exc.str)
      else raise exc

/-- The steps of `runParsed`. -/
def parsedSteps (env : ExecutorEnv) (q : QueryCall) (parsed : ParsedQuery) : Session Ending :=
  let explicit := explicitLimits q.limit parsed.ast
  let effective := effectiveLimit env.settings.limits explicit
  if effective = 0 then
    return .metadataOnly parsed.normalizedSql
  else
    match wrapSql env.sqlglot parsed.ast (effective + 1) with
    | .ok wrappedSql => wrappedSteps env q parsed wrappedSql explicit
    | .error (.recursionError _) => return .tooDeep parsed.normalizedSql
    | .error e => raise e

/-- The steps of `run_query`. -/
def steps (env : ExecutorEnv) (q : QueryCall) : Session Ending :=
  if !env.aliasConfigured then
    return .misconfigured (lit "MCP_READONLY_DATABASE_URL is not configured; " ++
      env.settings.dbAlias ++ lit " alias absent")
  else do
    let allowed ← call (allowedTables env q.profile)
    match parseAndValidate env.sqlglot q.rawSql allowed env.settings.banSelectStar with
    | .ok parsed => parsedSteps env q parsed
    | .error (.queryRejected exc) => return .rejected exc
    | .error e => raise e

end Steps

/-! ## The audit of an ending -/

/-- Steps are run from an empty transcript. -/
theorem run_audited (env : ExecutorEnv) (q : QueryCall) (x : Session Ending) (w : World) :
    (audited env q x).run w =
      match x.run [] with
      | .ok ending sent =>
        (conclude env q ending).run { w with executed := w.executed ++ sent.map Statement.sql }
      | .error e sent => .error e { w with executed := w.executed ++ sent.map Statement.sql } := by
  unfold audited runSession
  simp only [EStateM.run_bind, EStateM.run_modify]
  cases x.run [] with
  | ok ending sent => rfl
  | error e sent => rfl

/-- An ending that sent nothing. -/
theorem audited_pure (env : ExecutorEnv) (q : QueryCall) (ending : Ending) :
    audited env q (pure ending) = conclude env q ending := by
  funext w
  have hrun := run_audited env q (pure ending) w
  simp only [EStateM.run_pure, List.map_nil, List.append_nil] at hrun
  exact hrun

/-- An exception of a step that sent nothing escapes. -/
theorem audited_raise (env : ExecutorEnv) (q : QueryCall) (e : PyExc) :
    audited env q (raise e) = raise e := by
  funext w
  have hrun := run_audited env q (raise e) w
  simp only [run_raise, List.map_nil, List.append_nil] at hrun
  exact hrun

/-- A step without statements, before others. -/
theorem audited_call_bind {α : Type} (env : ExecutorEnv) (q : QueryCall) (r : Except PyExc α)
    (f : α → Session Ending) :
    audited env q (call r >>= f) = call r >>= fun a => audited env q (f a) := by
  cases r with
  | ok a => rfl
  | error e => exact audited_raise env q e

/-- A session, and an ending that depends on its outcome. -/
theorem audited_attempt_bind {α : Type} (env : ExecutorEnv) (q : QueryCall) (x : Session α)
    (f : Except PyExc α → Except PyExc Ending) :
    audited env q (attempt x >>= fun r => call (f r)) =
      runSession x >>= fun r => call (f r) >>= conclude env q := by
  funext w
  refine (run_audited env q _ w).trans ?_
  have hrun : (attempt x >>= fun r => call (f r)).run [] =
      (call (f (outcome (x.run [])))).run (finalState (x.run [])) := rfl
  rw [hrun]
  cases hread : f (outcome (x.run [])) with
  | ok ending =>
    show _ = (call (f (outcome (x.run []))) >>= conclude env q).run _
    rw [hread]
    rfl
  | error e =>
    show _ = (call (f (outcome (x.run []))) >>= conclude env q).run _
    rw [hread]
    rfl

section Refinement

variable (env : ExecutorEnv) (q : QueryCall) (parsed : ParsedQuery)

/-- The audit of an alias or wiring error. -/
theorem conclude_misconfigured (message : PyStr) :
    (auditMisconfig env q message >>= fun _ => raise (.executorMisconfigured message)) =
      conclude env q (.misconfigured message) :=
  bind_assoc _ _ _

/-- The audit of a failed hook whose exception has a text. -/
theorem hookFailure_eq (wrappedSql : PyStr) (exc : PyExc) :
    hookFailure env q parsed.normalizedSql wrappedSql exc =
      call exc.str >>= fun text =>
        conclude env q (.hookFailed parsed.normalizedSql wrappedSql text) := by
  cases hexc : exc.str with
  | ok text =>
    unfold hookFailure
    rw [hexc]
    rfl
  | error e =>
    unfold hookFailure
    rw [hexc]
    rfl

variable [UnicodeDatabase]

theorem runRead_eq (wrappedSql : PyStr) (explicit : List ℤ) (sessionContext : HookResult) :
    runRead env q parsed wrappedSql explicit sessionContext =
      runSession (readTransaction env.connection q.profile.role sessionContext wrappedSql) >>=
        fun read => call (readEnding env parsed.normalizedSql wrappedSql explicit read) >>=
          conclude env q := by
  unfold runRead
  refine bind_congr fun read => ?_
  cases read with
  | ok pair =>
    obtain ⟨rawRows, columns⟩ := pair
    simp only [runRows, readEnding]
    cases capRows env.settings.limits.bytesLimit
        (rawRows.take (effectiveLimit env.settings.limits explicit).toNat) with
    | ok capped => rfl
    | error e => rfl
  | error exc =>
    by_cases hdatabase : exc.isDatabaseError = true
    · simp only [readEnding, hdatabase, if_true]
      cases exc.str with
      | ok text => rfl
      | error e => rfl
    · simp only [readEnding, hdatabase]
      rfl

theorem runWrapped_eq (wrappedSql : PyStr) (explicit : List ℤ) :
    runWrapped env q parsed wrappedSql explicit =
      audited env q (wrappedSteps env q parsed wrappedSql explicit) := by
  unfold runWrapped wrappedSteps
  by_cases halias : env.connection.aliasName ≠ env.settings.dbAlias
  · rw [if_pos halias, if_pos halias, audited_pure]
    exact conclude_misconfigured env q _
  · rw [if_neg halias, if_neg halias]
    cases resolveSessionContext env q with
    | ok sessionContext =>
      rw [audited_attempt_bind]
      exact runRead_eq env q parsed wrappedSql explicit sessionContext
    | error exc =>
      by_cases hexception : exc.isException = true
      · simp only [hexception, if_true]
        rw [audited_call_bind, hookFailure_eq]
        refine bind_congr fun text => ?_
        rw [audited_pure]
      · simp only [hexception, Bool.false_eq_true, if_false]
        rw [audited_raise]

theorem runParsed_eq : runParsed env q parsed = audited env q (parsedSteps env q parsed) := by
  unfold runParsed parsedSteps
  by_cases hzero : effectiveLimit env.settings.limits (explicitLimits q.limit parsed.ast) = 0
  · simp only [hzero, if_true]
    rw [audited_pure]
    rfl
  · simp only [hzero, if_false]
    cases wrapSql env.sqlglot parsed.ast
        (effectiveLimit env.settings.limits (explicitLimits q.limit parsed.ast) + 1) with
    | ok wrappedSql => exact runWrapped_eq env q parsed wrappedSql _
    | error e =>
      cases e with
      | recursionError text =>
        rw [audited_pure]
        rfl
      | _ => rw [audited_raise]

/-- `run_query` is its steps followed by the audit of their ending. -/
theorem runQuery_eq : runQuery env q = audited env q (steps env q) := by
  unfold runQuery steps
  cases env.aliasConfigured with
  | false =>
    simp only [Bool.not_false, if_true]
    rw [audited_pure]
    exact conclude_misconfigured env q _
  | true =>
    simp only [Bool.not_true, Bool.false_eq_true, if_false]
    rw [audited_call_bind]
    refine bind_congr fun allowed => ?_
    cases parseAndValidate env.sqlglot q.rawSql allowed env.settings.banSelectStar with
    | ok parsed => exact runParsed_eq env q parsed
    | error e =>
      cases e with
      | queryRejected exc =>
        rw [audited_pure]
        rfl
      | _ => rw [audited_raise]

end Refinement

/-! ## What an ending leaves behind -/

/-- The row of an ending is attempted, and neither the alert nor the answer touches a table. -/
theorem run_conclude (env : ExecutorEnv) (q : QueryCall) (ending : Ending) (w : World) :
    ∃ log, (conclude env q ending).run w =
      (auditSafely env.toAuditEnv q.user (ending.row env q) >>= fun _ =>
        call (ending.answer env)).run { w with log := log } := by
  unfold conclude
  cases halert : ending.alert with
  | some error => exact ⟨_, rfl⟩
  | none => exact ⟨w.log, rfl⟩

/-- The state an ending leaves behind is the one its audit does. -/
theorem finalState_conclude (env : ExecutorEnv) (q : QueryCall) (ending : Ending) (w : World) :
    ∃ log, finalState ((conclude env q ending).run w) =
      finalState ((auditSafely env.toAuditEnv q.user (ending.row env q)).run
        { w with log := log }) := by
  obtain ⟨log, hrun⟩ := run_conclude env q ending w
  refine ⟨log, ?_⟩
  rw [hrun]
  exact finalState_bind_of_keeps (fun _ => .call (fun _ => rfl) _) _

/-- The audit of an ending sends nothing. -/
theorem executed_conclude (env : ExecutorEnv) (q : QueryCall) (ending : Ending) (w : World) :
    (finalState ((conclude env q ending).run w)).executed = w.executed := by
  obtain ⟨log, hconclude⟩ := finalState_conclude env q ending w
  obtain ⟨cache, log', stored, haudit⟩ :=
    finalState_auditSafely env.toAuditEnv q.user (ending.row env q) { w with log := log }
  rw [hconclude, haudit]

/-- What a call sends is what its steps send. -/
theorem executed_audited (env : ExecutorEnv) (q : QueryCall) (x : Session Ending) (w : World) :
    (finalState ((audited env q x).run w)).executed =
      w.executed ++ (finalState (x.run [])).map Statement.sql := by
  rw [run_audited]
  cases x.run [] with
  | ok ending sent => exact executed_conclude env q ending _
  | error e sent => rfl

/-- When the insert raises nothing but a `DatabaseError`, the ending is answered. -/
theorem conclude_answers {env : ExecutorEnv} {q : QueryCall} {ending : Ending}
    (h : Confined PyExc.isDatabaseError (env.createRow (ending.row env q))) (w : World) :
    outcome ((conclude env q ending).run w) = ending.answer env ∧
      (finalState ((conclude env q ending).run w)).executed = w.executed := by
  refine ⟨?_, executed_conclude env q ending w⟩
  obtain ⟨log, hrun⟩ := run_conclude env q ending w
  obtain ⟨w', haudit⟩ := auditSafely_returns h q.user { w with log := log }
  rw [hrun, EStateM.run_bind, haudit]
  show outcome ((call (ending.answer env)).run w') = _
  cases ending.answer env with
  | ok result => rfl
  | error e => rfl

/-- A query whose steps lead to an ending is answered, and its statements are recorded. -/
theorem runQuery_answers [UnicodeDatabase] {env : ExecutorEnv} {q : QueryCall} {ending : Ending}
    {sent : List Statement} (hsteps : (steps env q).run [] = .ok ending sent)
    (h : Confined PyExc.isDatabaseError (env.createRow (ending.row env q))) (w : World) :
    outcome ((runQuery env q).run w) = ending.answer env ∧
      (finalState ((runQuery env q).run w)).executed = w.executed ++ sent.map Statement.sql := by
  rw [runQuery_eq, run_audited, hsteps]
  exact conclude_answers h _

end McpSql
