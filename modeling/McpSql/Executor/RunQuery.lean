import McpSql.Executor.Audit
import McpSql.Executor.Cells
import McpSql.Executor.Session
import McpSql.Parser.ParseAndValidate

/-!
# `run_query`

The executor (`executor.py`): a query is validated, capped, run in the readonly session and audited.
The function is cut at the points where the source moves on to its next step; each part is named
after what it runs.
-/

namespace McpSql

open Python PyStr Effect

/-- On whose behalf a call is made, as the audit row records it. -/
structure Principal where
  user : User
  profile : Profile
  tokenId : PyStr := []
  clientIp : Option PyStr := none
  clientRedirect : PyStr := []

/-- The arguments of `run_query`. -/
structure QueryCall extends Principal where
  rawSql : PyStr
  limit : Option ℤ := none

/-- `connections[db_alias]`: its name, and what each operation on it answers or raises. -/
structure ReadConnection where
  aliasName : PyStr
  begin : Except PyExc Unit
  execute : Statement → Except PyExc Unit
  fetchall : PyStr → Except PyExc (List (List Value))
  description : PyStr → Option (List PyStr)
  commit : Except PyExc Unit

/-- What the executor depends on besides its arguments.  `hook` is what the SESSION_CONTEXT hook of
a profile returns or raises. -/
structure ExecutorEnv extends AuditEnv where
  startedAt : ℕ
  durationMs : ℕ
  aliasConfigured : Bool
  getModel : PyStr → Except PyExc PyStr
  sqlglot : Sqlglot
  connection : ReadConnection
  hook : User → Profile → Except PyExc HookResult

/-! ## The audit rows of a call -/

/-- The fields every row of a principal carries. -/
def Principal.row (p : Principal) (startedAt : ℕ) (decision : Decision) (rawSql : PyStr) :
    QueryLogRow where
  user := p.user.pk
  profile := p.profile.name
  tokenId := p.tokenId
  decision := decision
  rawSql := rawSql
  startedAt := startedAt
  clientIp := p.clientIp
  clientRedirect := p.clientRedirect

/-- The fields every row of a query carries. -/
def QueryCall.row (q : QueryCall) (startedAt : ℕ) (decision : Decision) : QueryLogRow :=
  q.toPrincipal.row startedAt decision q.rawSql

/-- The record of an operator's error. -/
def misconfiguredMessage (error : PyStr) : PyStr := lit "MCP executor misconfigured: " ++ error

/-- `_audit_misconfig`. -/
def auditMisconfig (env : ExecutorEnv) (q : QueryCall) (error : PyStr) : Py Unit := do
  emit .error (misconfiguredMessage error)
  auditSafely env.toAuditEnv q.user { q.row env.startedAt .rejected with
    rejectionReason := OutcomeReason.misconfigured.value
    error := error }

/-- `_hook_failure`. -/
def hookFailure (env : ExecutorEnv) (q : QueryCall) (normalizedSql wrappedSql : PyStr)
    (exc : PyExc) : Py QueryResult := do
  let error := lit "SESSION_CONTEXT hook failure: " ++ (← call exc.str)
  emit .error (misconfiguredMessage error)
  auditSafely env.toAuditEnv q.user { q.row env.startedAt .rejected with
    rejectionReason := OutcomeReason.misconfigured.value
    normalizedSql := normalizedSql
    wrappedSql := wrappedSql
    error := error }
  return { rejectionReason := some .misconfigured, hint := OutcomeReason.misconfigured.hint,
           error := error }

/-- `pgcode`. -/
def pgcode : PyExc → Option PyStr
  | .databaseError _ sqlstate => sqlstate
  | _ => none

/-- `_classify_db_error`. -/
def classifyDbError (exc : PyExc) : OutcomeReason :=
  if pgcode exc = some (lit "57014") then .timeout else .executionError

/-- `audit_tool_call`. -/
def auditToolCall (env : ExecutorEnv) (p : Principal) (tool : ToolName) (detail : PyStr) :
    Py Unit :=
  auditSafely env.toAuditEnv p.user { p.row env.startedAt .allowed detail with
    tool := tool.value }

/-! ## The steps -/

/-- `declared_tables`: the table of each allowed model, once. -/
def declaredTables (env : ExecutorEnv) (profile : Profile) :
    Except PyExc (List (PyStr × PyStr)) := do
  let tables ← profile.allowedModels.mapM fun entry => (entry, ·) <$> env.getModel entry
  return tables.eraseDups

/-- `set(declared_tables(profile).values())`. -/
def allowedTables (env : ExecutorEnv) (profile : Profile) : Except PyExc (Finset PyStr) := do
  let tables ← declaredTables env profile
  return (tables.map Prod.snd).toFinset

/-- `explicit_limits`. -/
def explicitLimits [UnicodeDatabase] (limit : Option ℤ) (ast : Expression) : List ℤ :=
  [limit, extractLimit ast].filterMap id

/-- `min_explicit_limit`. -/
def minExplicitLimit (limits : Limits) : List ℤ → ℤ
  | [] => limits.defaultLimit
  | n :: rest => rest.foldl min n

/-- `effective_limit`. -/
def effectiveLimit (limits : Limits) (explicit : List ℤ) : ℤ :=
  max 0 (min (minExplicitLimit limits explicit) limits.hardLimit)

/-- `user_constrained`. -/
def userConstrained (limits : Limits) (explicit : List ℤ) : Bool :=
  explicit ≠ [] && minExplicitLimit limits explicit ≤ limits.hardLimit

/-- `inject_limit(parsed.ast, n).sql(dialect="postgres")`. -/
def wrapSql (sqlglot : Sqlglot) (ast : Expression) (n : ℤ) : Except PyExc PyStr := do
  let limited ← injectLimit sqlglot ast n
  sqlglot.sql limited false

/-- The result of the profile's hook; `None` without one. -/
def callHook (env : ExecutorEnv) (q : QueryCall) : Except PyExc HookResult :=
  if q.profile.sessionContext.isSome then env.hook q.user q.profile else .ok .none

/-- The call of the hook and the check of its result. -/
def resolveSessionContext [UnicodeDatabase] (env : ExecutorEnv) (q : QueryCall) :
    Except PyExc HookResult := do
  match ← callHook env q with
  | .none => return .none
  | sessionContext => do
    validateSessionContext sessionContext
    return sessionContext

/-- The read transaction: the raw rows and the column names. -/
def readTransaction [UnicodeDatabase] (connection : ReadConnection) (role : PyStr)
    (sessionContext : HookResult) (wrappedSql : PyStr) :
    Session (List (List Value) × List PyStr) := do
  call connection.begin
  enterReadonlySession connection.execute role sessionContext
  execute connection.execute ⟨wrappedSql, []⟩
  let rawRows ← call (connection.fetchall wrappedSql)
  call connection.commit
  return (rawRows, (connection.description wrappedSql).getD [])

/-- Run a session: what it sent is recorded, and its outcome handed on. -/
def runSession {α : Type} (session : Session α) : Py (Except PyExc α) := do
  let result := session.run []
  modify fun w => { w with executed := w.executed ++ (finalState result).map Statement.sql }
  return outcome result

/-! ## The pipeline -/

section Pipeline

variable [UnicodeDatabase]

/-- The last part of `run_query`: the rows are capped, audited and returned. -/
def runRows (env : ExecutorEnv) (q : QueryCall) (parsed : ParsedQuery) (wrappedSql : PyStr)
    (explicit : List ℤ) (rawRows : List (List Value)) (columns : List PyStr) :
    Py QueryResult := do
  let limits := env.settings.limits
  let effective := effectiveLimit limits explicit
  let truncatedByCount := !userConstrained limits explicit && effective < rawRows.length
  let capped ← call (capRows limits.bytesLimit (rawRows.take effective.toNat))
  let truncated := truncatedByCount || capped.cut
  auditSafely env.toAuditEnv q.user { q.row env.startedAt .allowed with
    normalizedSql := parsed.normalizedSql
    wrappedSql := wrappedSql
    durationMs := some env.durationMs
    rowCount := some capped.kept.length
    truncated := truncated
    resultBytes := some capped.total }
  return { columns := columns, rows := capped.kept, rowCount := capped.kept.length,
           truncated := truncated, durationMs := env.durationMs,
           hint := if truncated then truncatedHint else [] }

/-- The part of `run_query` that reads: the transaction with its `DatabaseError` handler. -/
def runRead (env : ExecutorEnv) (q : QueryCall) (parsed : ParsedQuery) (wrappedSql : PyStr)
    (explicit : List ℤ) (sessionContext : HookResult) : Py QueryResult := do
  match ← runSession (readTransaction env.connection q.profile.role sessionContext wrappedSql) with
  | .ok (rawRows, columns) => runRows env q parsed wrappedSql explicit rawRows columns
  | .error exc =>
    if exc.isDatabaseError then
      let reason := classifyDbError exc
      let error ← call exc.str
      auditSafely env.toAuditEnv q.user { q.row env.startedAt .allowed with
        rejectionReason := reason.value
        normalizedSql := parsed.normalizedSql
        wrappedSql := wrappedSql
        durationMs := some env.durationMs
        error := error }
      return { rejectionReason := some reason, hint := reason.hint, durationMs := env.durationMs,
               error := error }
    else raise exc

/-- The part of `run_query` before the read: the alias assertion and the hook. -/
def runWrapped (env : ExecutorEnv) (q : QueryCall) (parsed : ParsedQuery) (wrappedSql : PyStr)
    (explicit : List ℤ) : Py QueryResult := do
  if env.connection.aliasName ≠ env.settings.dbAlias then
    let message := lit "connections[" ++ PyStr.repr env.settings.dbAlias ++
      lit "] resolved to a different alias"
    auditMisconfig env q message
    raise (.executorMisconfigured message)
  else
    match resolveSessionContext env q with
    | .ok sessionContext => runRead env q parsed wrappedSql explicit sessionContext
    | .error exc =>
      if exc.isException then hookFailure env q parsed.normalizedSql wrappedSql exc
      else raise exc

/-- The part of `run_query` after parsing: the effective limit, its zero short-circuit, and the
injection of the `LIMIT`. -/
def runParsed (env : ExecutorEnv) (q : QueryCall) (parsed : ParsedQuery) : Py QueryResult := do
  let explicit := explicitLimits q.limit parsed.ast
  let effective := effectiveLimit env.settings.limits explicit
  if effective = 0 then
    auditSafely env.toAuditEnv q.user { q.row env.startedAt .allowed with
      normalizedSql := parsed.normalizedSql
      durationMs := some 0
      rowCount := some 0
      resultBytes := some 0 }
    return { rowCount := 0, durationMs := 0 }
  else
    match wrapSql env.sqlglot parsed.ast (effective + 1) with
    | .ok wrappedSql => runWrapped env q parsed wrappedSql explicit
    | .error (.recursionError _) =>
      let message := lit "SQL nesting is too deep to serialize"
      auditSafely env.toAuditEnv q.user { q.row env.startedAt .rejected with
        rejectionReason := OutcomeReason.parseError.value
        normalizedSql := parsed.normalizedSql
        error := message }
      return { rejectionReason := some .parseError, hint := OutcomeReason.parseError.hint,
               error := message }
    | .error e => raise e

/-- `run_query`. -/
def runQuery (env : ExecutorEnv) (q : QueryCall) : Py QueryResult := do
  if !env.aliasConfigured then
    let message := lit "MCP_READONLY_DATABASE_URL is not configured; " ++ env.settings.dbAlias ++
      lit " alias absent"
    auditMisconfig env q message
    raise (.executorMisconfigured message)
  else
    let allowed ← call (allowedTables env q.profile)
    match parseAndValidate env.sqlglot q.rawSql allowed env.settings.banSelectStar with
    | .ok parsed => runParsed env q parsed
    | .error (.queryRejected exc) =>
      auditSafely env.toAuditEnv q.user { q.row env.startedAt .rejected with
        rejectionReason := exc.reason.value
        error := exc.detail }
      return { rejectionReason := some exc.reason, hint := exc.reason.hint, error := exc.detail }
    | .error e => raise e

end Pipeline

/-! ## An example -/

/-- A healthy server over `notes`, with a given sqlglot and given rows in the database. -/
def exampleExecutorEnv (sqlglot : Sqlglot) (rows : PyStr → List (List Value)) : ExecutorEnv where
  settings := exampleSettings
  faults := healthyCache
  createRow row := row.columns.insert dottedQuad
  startedAt := 0
  durationMs := 1
  aliasConfigured := true
  getModel _ := .ok (lit "notes")
  sqlglot := sqlglot
  connection :=
    { aliasName := lit "mcp_readonly"
      begin := .ok ()
      execute := fun _ => .ok ()
      fetchall := fun sql => .ok (rows sql)
      description := fun _ => some [lit "x"]
      commit := .ok () }
  hook _ _ := .ok .none

/-- A call with a given query and limit. -/
def exampleCall (rawSql : String) (limit : Option ℤ) : QueryCall where
  user := ⟨lit "7", lit "ada", true, true⟩
  profile := ⟨lit "default", lit "mcp_readonly_role", lit "use_mcp_session", lit "mcp_sql_users",
    [lit "notes.Note"], none⟩
  rawSql := lit rawSql
  limit := limit

end McpSql
