import McpSql.Executor.SessionGuards
import McpSql.Foundations.Scripted
import McpSql.Profiles.RoleSetup

/-!
# The smoke check

`mcp_sql_smoke`: three checks of the read-only alias, each in a transaction of its own.  Whatever the
database answers, a check sends its own statements only, and the transaction that tries the write is
never committed.
-/

namespace McpSql

open Python PyStr Effect Raising Postgres

/-! ## The read-only alias -/

/-- A check of the command. -/
inductive SmokeCheck where
  | readPath
  | auditUnreadable
  | writeRejected
  deriving DecidableEq, Repr

/-- A row as the command looks at it: `str(row[0])`, and whether it equals `(1,)`. -/
structure SmokeRow where
  first : Except PyExc PyStr
  isOne : Bool

/-- What the alias answers in the transaction of each check. -/
structure SmokeServer where
  begin : SmokeCheck → Except PyExc Unit
  execute : SmokeCheck → Statement → Except PyExc Unit
  fetchone : SmokeCheck → Statement → Except PyExc (Option SmokeRow)
  fetchall : SmokeCheck → Statement → Except PyExc Unit
  commit : SmokeCheck → Except PyExc Unit

/-- What a transaction has sent, and whether it was committed. -/
structure SmokeTransaction where
  check : SmokeCheck
  sent : List Statement
  committed : Bool

/-- The state of the process, the transactions of the checks and what was printed. -/
structure SmokeState where
  world : World
  transactions : List SmokeTransaction := []
  stdout : List PyStr := []

/-- The command. -/
abbrev Smoking := EStateM PyExc SmokeState

/-- `self.stdout.write`. -/
def say (line : PyStr) : Smoking Unit :=
  modify fun s => { s with stdout := s.stdout ++ [line] }

/-- A computation of the package, as a part of the command. -/
def inProcess {α : Type} (x : Py α) : Smoking α := fun s =>
  match x.run s.world with
  | .ok a world => .ok a { s with world := world }
  | .error e world => .error e { s with world := world }

/-- `transaction.atomic()` on the alias; `setRollback` tells whether the body ends with
`transaction.set_rollback(True)`. -/
def inTransaction (server : SmokeServer) (check : SmokeCheck) (setRollback : Bool)
    (session : Session Unit) : Smoking Unit := fun s =>
  match server.begin check with
  | .error e => .error e s
  | .ok _ =>
    match session.run [] with
    | .error e sent =>
      .error e { s with transactions := s.transactions ++ [⟨check, sent, false⟩] }
    | .ok _ sent =>
      if setRollback then
        .ok () { s with transactions := s.transactions ++ [⟨check, sent, false⟩] }
      else
        match server.commit check with
        | .error e => .error e { s with transactions := s.transactions ++ [⟨check, sent, false⟩] }
        | .ok _ => .ok () { s with transactions := s.transactions ++ [⟨check, sent, true⟩] }

/-! ## What the checks send -/

/-- A failed `assert`. -/
def assertionError : PyExc := .otherException (lit "AssertionError") (some [])

/-- Send a query and take the first column of its row as a text. -/
def fetchSetting (server : SmokeServer) (check : SmokeCheck) (query : PyStr) : Session PyStr := do
  execute (server.execute check) ⟨query, []⟩
  match ← call (server.fetchone check ⟨query, []⟩) with
  | none => raise assertionError
  | some row => call row.first

/-- `session_drift`, with the queries it sends. -/
def readSessionDrift (server : SmokeServer) (check : SmokeCheck) (expectedRole : PyStr) :
    Session (List (PyStr × PyStr × PyStr)) := do
  let actualRole ← fetchSetting server check (lit "SELECT current_user")
  let gucs ← expectedSessionGucs.mapM fun guc =>
    (fun actual => if actual ≠ guc.2 then some (guc.1, guc.2, actual) else none) <$>
      fetchSetting server check (lit "SHOW " ++ guc.1)
  return (if actualRole ≠ expectedRole then
    [(lit "current_user", expectedRole, actualRole)] else []) ++ gucs.filterMap id

/-- `SELECT 1 FROM "table" LIMIT 1`. -/
def selectFrom (table : PyStr) : Statement :=
  ⟨lit "SELECT 1 FROM \"" ++ table ++ lit "\" LIMIT 1", []⟩

/-- `INSERT INTO "table" DEFAULT VALUES`. -/
def insertInto (table : PyStr) : Statement :=
  ⟨lit "INSERT INTO \"" ++ table ++ lit "\" DEFAULT VALUES", []⟩

/-- `AUDIT_TABLE`. -/
def auditTable : PyStr := lit "mcp_sql_mcpquerylog"

/-- The text of a drift, a mapping to pairs. -/
def driftRepr [UnicodeDatabase] (drift : List (PyStr × PyStr × PyStr)) : PyStr :=
  lit "\x7b" ++ (lit ", ").intercalate (drift.map fun entry => PyStr.repr entry.1 ++ lit ": (" ++
    PyStr.repr entry.2.1 ++ lit ", " ++ PyStr.repr entry.2.2 ++ lit ")") ++ lit "\x7d"

section Checks

variable [UnicodeDatabase] (server : SmokeServer) (role table : PyStr)

/-- The transaction of `_verify_read_path`. -/
def readPathSession : Session Unit := do
  enterReadonlySession (server.execute .readPath) role .none
  let drift ← readSessionDrift server .readPath role
  call (raiseIf (drift ≠ []) (commandError (lit "Session GUC drift after enter_readonly_session: " ++
    driftRepr drift ++ lit ". The role / SET LOCAL contract is not in sync with " ++
    lit "sql/role_setup.sql; review session.EXPECTED_SESSION_GUCS.")))
  execute (server.execute .readPath) ⟨lit "SELECT 1", []⟩
  let row ← call (server.fetchone .readPath ⟨lit "SELECT 1", []⟩)
  call (raiseIf (row.map SmokeRow.isOne ≠ some true) assertionError)
  execute (server.execute .readPath) (selectFrom table)
  call (server.fetchall .readPath (selectFrom table))

/-- The transaction of `_verify_audit_unreadable`. -/
def auditSession : Session Unit := do
  enterReadonlySession (server.execute .auditUnreadable) role .none
  execute (server.execute .auditUnreadable) (selectFrom auditTable)
  call (server.fetchall .auditUnreadable (selectFrom auditTable))

/-- The transaction of `_verify_write_rejected`. -/
def writeSession : Session Unit := do
  enterReadonlySession (server.execute .writeRejected) role .none
  execute (server.execute .writeRejected) (insertInto table)

end Checks

/-! ## The command -/

/-- What the command depends on besides the answers of the alias. -/
structure SmokeEnv extends ExecutorEnv where
  server : SmokeServer
  /-- The users by primary key, each with its address. -/
  users : List (PyStr × User)
  /-- `exc.__class__.__name__`. -/
  className : PyExc → PyStr
  /-- The lines that show whose query was run, and its result. -/
  resultLines : User → QueryResult → List PyStr

/-- The options of the command. -/
structure SmokeOptions where
  table : Option PyStr := none
  runQuery : Option PyStr := none
  limit : Option ℤ := none
  profile : Option PyStr := none
  asUser : Option PyStr := none

section Command

variable [UnicodeDatabase] (env : SmokeEnv)

/-- `_smoke_profile`. -/
def smokeProfile (name : Option PyStr) : Except PyExc Profile :=
  let profiles := env.settings.profiles
  match name with
  | some name =>
    match profiles.find? (·.name = name) with
    | some profile => .ok profile
    | none => .error (commandError (lit "Unknown profile " ++ PyStr.repr name ++
        lit "; declared profiles: " ++
        (lit ", ").intercalate (sorted (profiles.map Profile.name).toFinset)))
  | none =>
    match profiles.find? (·.name = lit "default") with
    | some profile => .ok profile
    | none =>
      match profiles with
      | profile :: _ => .ok profile
      | [] => .error (.otherException (lit "StopIteration") (some []))

/-- `_first_whitelisted_table`. -/
def firstWhitelistedTable (profile : Profile) : Except PyExc PyStr := do
  match ← declaredTables env.toExecutorEnv profile with
  | entry :: _ => .ok entry.2
  | [] => .error (commandError (lit "No --table was given and profile " ++
      PyStr.repr profile.name ++ lit " has an empty ALLOWED_MODELS. Add at least one model (e.g. " ++
      lit "['auth.Permission']) to the profile, run mcp_sql_grants --apply, then re-run smoke. " ++
      lit "The smoke command must hit a table the role actually has SELECT on; otherwise the " ++
      lit "read-path assertion is meaningless."))

/-- `options["table"] or self._first_whitelisted_table(profile)`. -/
def smokeTable (profile : Profile) (table : Option PyStr) : Except PyExc PyStr :=
  match table with
  | some (c :: rest) => .ok (c :: rest)
  | _ => firstWhitelistedTable env profile

/-- `_verify_read_path`. -/
def verifyReadPath (profile : Profile) (table : PyStr) : Smoking Unit := do
  inTransaction env.server .readPath false (readPathSession env.server profile.role table)
  say (lit "Read path ok: SET LOCAL ROLE + 4 GUCs verified, SELECT FROM " ++ table ++ lit " ok")

/-- The error of a transaction that a `DatabaseError` ended. -/
def databaseErrorOf (x : Smoking Unit) : Smoking (Option PyExc) :=
  catching PyExc.isDatabaseError ((fun _ => none) <$> x) fun exc => return some exc

/-- `repr` of an SQLSTATE. -/
def codeRepr : Option PyStr → PyStr
  | some code => PyStr.repr code
  | none => lit "None"

/-- `_verify_audit_unreadable`. -/
def verifyAuditUnreadable (profile : Profile) : Smoking Unit := do
  match ← databaseErrorOf (inTransaction env.server .auditUnreadable true
      (auditSession env.server profile.role)) with
  | some exc =>
    if pgcode exc = some (lit "42501") then
      say (lit "Audit table " ++ auditTable ++ lit " unreadable (pgcode=42501) — " ++
        lit "0002_revoke_audit_grants is in effect.")
    else do
      let text ← call exc.str
      raise (commandError (lit "Audit table read failed with unexpected pgcode " ++
        codeRepr (pgcode exc) ++ lit ": " ++ env.className exc ++ lit ": " ++ text ++
        lit ". Expected 42501 (insufficient_privilege)."))
  | none => raise (commandError (lit "SECURITY ALARM: audit table " ++ auditTable ++
      lit " is READABLE from mcp_readonly_role. Migration 0002_revoke_audit_grants did not take " ++
      lit "effect; the agent could read its own audit trail."))

/-- `EXPECTED_REJECTION_PGCODES`. -/
def expectedRejectionPgcodes : List PyStr := [lit "25006", lit "42501"]

/-- `_verify_write_rejected`. -/
def verifyWriteRejected (profile : Profile) (table : PyStr) : Smoking Unit := do
  match ← databaseErrorOf (inTransaction env.server .writeRejected true
      (writeSession env.server profile.role table)) with
  | some exc =>
    match (pgcode exc).filter (· ∈ expectedRejectionPgcodes) with
    | some code => say (lit "Write attempt rejected as expected: " ++ env.className exc ++
        lit " (pgcode=" ++ code ++ lit ")")
    | none => do
      let text ← call exc.str
      raise (commandError (lit "Write was rejected, but by an unexpected pgcode " ++
        codeRepr (pgcode exc) ++ lit ": " ++ env.className exc ++ lit ": " ++ text ++
        lit ". The readonly guard should reject with 25006 (read_only_sql_transaction) and " ++
        lit "grants should reject with 42501 (insufficient_privilege). Anything else (e.g. 23502 " ++
        lit "not_null_violation) means the write reached row evaluation, which is a security " ++
        lit "boundary breach."))
  | none => raise (commandError (lit "SECURITY ALARM: write to a whitelisted table was NOT " ++
      lit "rejected after enter_readonly_session. Verify role_setup.sql was applied, the SET LOCAL " ++
      lit "guards in session.py match it, and mcp_sql_grants --apply did NOT grant INSERT."))

/-- The user a query is attributed to. -/
def attributedUser (asUser : Option PyStr) : Except PyExc User :=
  match asUser with
  | some (c :: rest) =>
    match env.users.find? (·.1 = c :: rest) with
    | some entry => .ok entry.2
    | none => .error (commandError (lit "No user with email " ++ PyStr.repr (c :: rest) ++
        lit " exists. Pre-create the attribution user (a dedicated on-call mailbox is " ++
        lit "recommended) before running smoke on stage/prod so the audit trail is clean."))
  | _ =>
    match (env.users.find? (·.2.isStaff)).or env.users.head? with
    | some entry => .ok entry.2
    | none => .error (commandError (lit "No user in the DB to attribute the audit row to. Create " ++
        lit "at least one user (a staff user is preferred) before running --run-query, or pass " ++
        lit "--as-user <email>."))

/-- `isinstance(exc, ExecutorMisconfiguredError)`. -/
def isExecutorMisconfigured : PyExc → Bool
  | .executorMisconfigured _ => true
  | _ => false

/-- The call of `run_query`. -/
def smokeCall (options : SmokeOptions) (user : User) (profile : Profile) (rawSql : PyStr) :
    QueryCall where
  user := user
  profile := profile
  rawSql := rawSql
  limit := options.limit

/-- `_run_query`. -/
def smokeRunQuery (options : SmokeOptions) (profile : Profile) (rawSql : PyStr) : Smoking Unit := do
  let user ← call (attributedUser env options.asUser)
  let result ← catching isExecutorMisconfigured
    (inProcess (runQuery env.toExecutorEnv (smokeCall options user profile rawSql)))
    fun exc => do
      let text ← call exc.str
      raise (commandError text)
  forM (env.resultLines user result) say

/-- The line of a run without the alias. -/
def skipLine : PyStr :=
  lit "MCP_READONLY_DATABASE_URL is not set; " ++ PyStr.repr env.settings.dbAlias ++
    lit " alias absent. Skipping smoke check."

/-- `handle` of `mcp_sql_smoke`. -/
def handleSmoke (options : SmokeOptions) : Smoking Unit := do
  if !env.aliasConfigured then
    say (skipLine env)
  else do
    let profile ← call (smokeProfile env options.profile)
    say (lit "Smoking profile " ++ PyStr.repr profile.name ++ lit " (role " ++ profile.role ++
      lit ").")
    match options.runQuery with
    | some (c :: rest) => smokeRunQuery env options profile (c :: rest)
    | _ => do
      let table ← call (smokeTable env profile options.table)
      verifyReadPath env profile table
      verifyAuditUnreadable env profile
      verifyWriteRejected env profile table

end Command

/-! ## What the checks come to -/

/-- What a check sends after it has entered the session. -/
def SmokeCheck.probes (table : PyStr) : SmokeCheck → List Statement
  | readPath => ⟨lit "SELECT current_user", []⟩ ::
      expectedSessionGucs.map (fun guc => ⟨lit "SHOW " ++ guc.1, []⟩) ++
        [⟨lit "SELECT 1", []⟩, selectFrom table]
  | auditUnreadable => [selectFrom auditTable]
  | writeRejected => [insertInto table]

/-- All that a check sends. -/
def SmokeCheck.script (check : SmokeCheck) (role table : PyStr) : List Statement :=
  openingStatements role ++ check.probes table

/-- What reading a setting comes to. -/
def settingAnswer (server : SmokeServer) (check : SmokeCheck) (query : PyStr) : Except PyExc PyStr := do
  server.execute check ⟨query, []⟩
  match ← server.fetchone check ⟨query, []⟩ with
  | none => .error assertionError
  | some row => row.first

/-- What the comparison with the expected session comes to. -/
def driftAnswer (server : SmokeServer) (check : SmokeCheck) (expectedRole : PyStr) :
    Except PyExc (List (PyStr × PyStr × PyStr)) := do
  let actualRole ← settingAnswer server check (lit "SELECT current_user")
  let gucs ← expectedSessionGucs.mapM fun guc =>
    (fun actual => if actual ≠ guc.2 then some (guc.1, guc.2, actual) else none) <$>
      settingAnswer server check (lit "SHOW " ++ guc.1)
  return (if actualRole ≠ expectedRole then
    [(lit "current_user", expectedRole, actualRole)] else []) ++ gucs.filterMap id

section Scripts

variable {server : SmokeServer} {check : SmokeCheck}

theorem scripted_execute (answer : Statement → Except PyExc Unit) (statement : Statement) :
    Scripted (execute answer statement) (answer statement) [statement] := by
  intro sent
  refine ⟨[statement], ?_, List.prefix_rfl, fun _ => rfl⟩
  unfold execute
  rw [EStateM.run_bind, EStateM.run_modify]
  cases answer statement with
  | ok u => rfl
  | error e => rfl

theorem scripted_enterReadonlySession [UnicodeDatabase] (role : PyStr) :
    Scripted (enterReadonlySession (server.execute check) role .none)
      (forM (openingStatements role) (server.execute check)) (openingStatements role) := by
  have hstatement : ∀ statement ∈ openingStatements role, Scripted
      (execute (server.execute check) statement) (server.execute check statement) [statement] :=
    fun statement _ => scripted_execute _ _
  have hopening := Scripted.forM hstatement
  rw [← List.map_eq_flatMap, List.map_id'] at hopening
  rw [enterReadonlySession_eq]
  have hcontext : (fun _ : PUnit => setContext (server.execute check) .none) =
      fun _ => (Pure.pure () : Session Unit) := rfl
  rw [hcontext]
  intro sent
  obtain ⟨pre, hrun, hpre⟩ := hopening sent
  refine ⟨pre, ?_, hpre⟩
  rw [EStateM.run_bind, hrun]
  cases forM (openingStatements role) (server.execute check) with
  | ok u => rfl
  | error e => rfl

theorem scripted_fetchSetting (query : PyStr) :
    Scripted (fetchSetting server check query) (settingAnswer server check query)
      [⟨query, []⟩] := by
  unfold fetchSetting settingAnswer
  refine .bind (scripted_execute _ _) fun _ => ?_
  refine .call_bind _ fun row => ?_
  cases row with
  | none => exact .raise _
  | some row => exact .call _

theorem scripted_readSessionDrift (role : PyStr) :
    Scripted (readSessionDrift server check role) (driftAnswer server check role)
      (⟨lit "SELECT current_user", []⟩ ::
        expectedSessionGucs.map fun guc => ⟨lit "SHOW " ++ guc.1, []⟩) := by
  unfold readSessionDrift driftAnswer
  refine (scripted_fetchSetting _).bind fun actualRole => ?_
  have hguc : ∀ guc ∈ expectedSessionGucs, Scripted
      ((fun actual => if actual ≠ guc.2 then some (guc.1, guc.2, actual) else none) <$>
        fetchSetting server check (lit "SHOW " ++ guc.1))
      ((fun actual => if actual ≠ guc.2 then some (guc.1, guc.2, actual) else none) <$>
        settingAnswer server check (lit "SHOW " ++ guc.1))
      [(⟨lit "SHOW " ++ guc.1, []⟩ : Statement)] := fun guc _ => (scripted_fetchSetting _).map _
  have hgucs := Scripted.mapM hguc
  rw [← List.map_eq_flatMap] at hgucs
  simp only [bind_pure_comp]
  exact hgucs.map _

/-! ## The outcome of a transaction -/

/-- What the read path comes to. -/
def readPathAnswer [UnicodeDatabase] (server : SmokeServer) (role table : PyStr) :
    Except PyExc Unit := do
  forM (openingStatements role) (server.execute .readPath)
  let drift ← driftAnswer server .readPath role
  raiseIf (drift ≠ []) (commandError (lit "Session GUC drift after enter_readonly_session: " ++
    driftRepr drift ++ lit ". The role / SET LOCAL contract is not in sync with " ++
    lit "sql/role_setup.sql; review session.EXPECTED_SESSION_GUCS."))
  server.execute .readPath ⟨lit "SELECT 1", []⟩
  let row ← server.fetchone .readPath ⟨lit "SELECT 1", []⟩
  raiseIf (row.map SmokeRow.isOne ≠ some true) assertionError
  server.execute .readPath (selectFrom table)
  server.fetchall .readPath (selectFrom table)

/-- What the read of the audit table comes to. -/
def auditAnswer (server : SmokeServer) (role : PyStr) : Except PyExc Unit := do
  forM (openingStatements role) (server.execute .auditUnreadable)
  server.execute .auditUnreadable (selectFrom auditTable)
  server.fetchall .auditUnreadable (selectFrom auditTable)

/-- What the write comes to. -/
def writeAnswer (server : SmokeServer) (role table : PyStr) : Except PyExc Unit := do
  forM (openingStatements role) (server.execute .writeRejected)
  server.execute .writeRejected (insertInto table)

variable [UnicodeDatabase]

theorem scripted_readPathSession (role table : PyStr) :
    Scripted (readPathSession server role table) (readPathAnswer server role table)
      (SmokeCheck.readPath.script role table) := by
  unfold readPathSession readPathAnswer
  refine .bind (scripted_enterReadonlySession role) fun _ => ?_
  refine .bind (scripted_readSessionDrift role) fun drift => ?_
  refine .call_bind _ fun _ => ?_
  refine (scripted_execute _ _).bind fun _ => ?_
  refine .call_bind _ fun row => ?_
  refine .call_bind _ fun _ => ?_
  exact (scripted_execute _ _).bind_call _

theorem scripted_auditSession (role table : PyStr) :
    Scripted (auditSession server role) (auditAnswer server role)
      (SmokeCheck.auditUnreadable.script role table) := by
  unfold auditSession auditAnswer
  refine .bind (scripted_enterReadonlySession role) fun _ => ?_
  exact (scripted_execute _ _).bind_call _

theorem scripted_writeSession (role table : PyStr) :
    Scripted (writeSession server role table) (writeAnswer server role table)
      (SmokeCheck.writeRejected.script role table) := by
  unfold writeSession writeAnswer
  exact .bind (scripted_enterReadonlySession role) fun _ => scripted_execute _ _

end Scripts

/-- What a transaction comes to. -/
def transactionAnswer (server : SmokeServer) (check : SmokeCheck) (setRollback : Bool)
    (r : Except PyExc Unit) : Except PyExc Unit := do
  server.begin check
  r
  if setRollback then .ok () else server.commit check

/-! ## What is sent and committed -/

/-- The transaction has sent a part of its check's statements; if it was committed it is that of the
read path, and has sent them all. -/
structure SmokeTransaction.Clean (t : SmokeTransaction) (role table : PyStr) : Prop where
  sent : t.sent <+: t.check.script role table
  committed : t.committed = true → t.check = .readPath ∧ t.sent = t.check.script role table

/-- A part of the command that opens transactions for some of these checks, in this order, and leaves
the process alone. -/
def Opens (role table : PyStr) (checks : List SmokeCheck) {α : Type} (x : Smoking α) : Prop :=
  ∀ s, ∃ records, (finalState (x.run s)).transactions = s.transactions ++ records ∧
    (records.map SmokeTransaction.check).Sublist checks ∧ (∀ t ∈ records, t.Clean role table) ∧
    (finalState (x.run s)).world = s.world

section Opens

variable {role table : PyStr} {α β : Type}

theorem Opens.quiet {x : Smoking α}
    (h : Keeps (fun s t => t.transactions = s.transactions ∧ t.world = s.world) x) :
    Opens role table [] x := by
  intro s
  obtain ⟨htransactions, hworld⟩ := h s
  exact ⟨[], by rw [htransactions, List.append_nil], List.Sublist.slnil, by simp, hworld⟩

theorem opens_say (line : PyStr) : Opens role table [] (say line) :=
  .quiet fun _ => ⟨rfl, rfl⟩

theorem opens_raise (e : PyExc) : Opens role table [] (raise e : Smoking α) :=
  .quiet fun _ => ⟨rfl, rfl⟩

theorem opens_call (r : Except PyExc α) : Opens role table [] (call r : Smoking α) :=
  .quiet (.call (fun _ => ⟨rfl, rfl⟩) r)

theorem Opens.bind {checks others : List SmokeCheck} {x : Smoking α} {f : α → Smoking β}
    (hx : Opens role table checks x) (hf : ∀ a, Opens role table others (f a)) :
    Opens role table (checks ++ others) (x >>= f) := by
  intro s
  obtain ⟨records, htransactions, hchecks, hclean, hworld⟩ := hx s
  rw [EStateM.run_bind]
  cases hrun : x.run s with
  | ok a t =>
    simp only [hrun, finalState_ok] at htransactions hworld
    obtain ⟨more, hmore, hothers, hcleaned, hworld'⟩ := hf a t
    refine ⟨records ++ more, ?_, ?_, ?_, hworld'.trans hworld⟩
    · rw [hmore, htransactions, List.append_assoc]
    · rw [List.map_append]
      exact hchecks.append hothers
    · intro record hrecord
      rcases List.mem_append.mp hrecord with hfirst | hlater
      · exact hclean record hfirst
      · exact hcleaned record hlater
  | error e t =>
    simp only [hrun, finalState_error] at htransactions hworld
    exact ⟨records, htransactions, hchecks.trans (List.sublist_append_left _ _), hclean, hworld⟩

/-- What follows an answer that is known. -/
theorem Opens.call_bind {checks : List SmokeCheck} {r : Except PyExc α} {f : α → Smoking β}
    (hf : ∀ a, r = .ok a → Opens role table checks (f a)) :
    Opens role table checks (call r >>= f) := by
  cases r with
  | ok a => exact hf a rfl
  | error e =>
    intro s
    exact ⟨[], (List.append_nil _).symm, List.nil_sublist _, by simp, rfl⟩

/-- A transaction with a script of its check is clean, when it is not one to be committed. -/
theorem opens_inTransaction {server : SmokeServer} {check : SmokeCheck} {setRollback : Bool}
    {session : Session Unit} {r : Except PyExc Unit}
    (hscript : Scripted session r (check.script role table))
    (hcommitted : setRollback = false → check = .readPath) :
    Opens role table [check] (inTransaction server check setRollback session) := by
  intro s
  obtain ⟨pre, hrun, hpre, hwhole⟩ := hscript.run_nil
  have hone : ∀ committed : Bool, (committed = true → check = .readPath ∧
      pre = check.script role table) → ∀ t ∈ [(⟨check, pre, committed⟩ : SmokeTransaction)],
        t.Clean role table := by
    intro committed hclean t ht
    obtain rfl := List.mem_singleton.mp ht
    exact ⟨hpre, hclean⟩
  show ∃ records, (finalState (inTransaction server check setRollback session s)).transactions = _ ∧
    _ ∧ _ ∧ (finalState (inTransaction server check setRollback session s)).world = _
  unfold inTransaction
  cases server.begin check with
  | error e => exact ⟨[], (List.append_nil _).symm, List.nil_sublist _, by simp, rfl⟩
  | ok u =>
    rw [hrun]
    cases r with
    | error e => exact ⟨_, rfl, List.Sublist.refl _, hone false (by simp), rfl⟩
    | ok v =>
      simp only [resultOf_ok]
      cases setRollback with
      | true => exact ⟨_, rfl, List.Sublist.refl _, hone false (by simp), rfl⟩
      | false =>
        cases server.commit check with
        | error e => exact ⟨_, rfl, List.Sublist.refl _, hone false (by simp), rfl⟩
        | ok w =>
          refine ⟨_, rfl, List.Sublist.refl _, hone true fun _ => ?_, rfl⟩
          exact ⟨hcommitted rfl, hwhole ⟨v, rfl⟩⟩

/-- Catching a `DatabaseError` opens nothing more. -/
theorem Opens.databaseErrorOf {checks : List SmokeCheck} {x : Smoking Unit}
    (hx : Opens role table checks x) : Opens role table checks (databaseErrorOf x) := by
  intro s
  have hsame : finalState ((McpSql.databaseErrorOf x).run s) = finalState (x.run s) := by
    unfold McpSql.databaseErrorOf
    rw [run_catching, run_map]
    cases x.run s with
    | ok u t => rfl
    | error e t => cases hcaught : e.isDatabaseError <;> simp [hcaught]
  rw [hsame]
  exact hx s

variable [UnicodeDatabase] {env : SmokeEnv}

theorem opens_verifyReadPath (profile : Profile) (table : PyStr) :
    Opens profile.role table [.readPath] (verifyReadPath env profile table) := by
  unfold verifyReadPath
  exact (opens_inTransaction (scripted_readPathSession _ _) fun _ => rfl).bind fun _ => opens_say _

theorem opens_verifyAuditUnreadable (profile : Profile) (table : PyStr) :
    Opens profile.role table [.auditUnreadable] (verifyAuditUnreadable env profile) := by
  unfold verifyAuditUnreadable
  refine (opens_inTransaction (scripted_auditSession _ table) (by simp)).databaseErrorOf.bind
    fun found => ?_
  cases found with
  | none => exact opens_raise _
  | some exc =>
    simp only
    split_ifs
    · exact opens_say _
    · exact (opens_call _).bind fun _ => opens_raise _

theorem opens_verifyWriteRejected (profile : Profile) (table : PyStr) :
    Opens profile.role table [.writeRejected] (verifyWriteRejected env profile table) := by
  unfold verifyWriteRejected
  refine (opens_inTransaction (scripted_writeSession _ _) (by simp)).databaseErrorOf.bind
    fun found => ?_
  cases found with
  | none => exact opens_raise _
  | some exc =>
    simp only
    cases (pgcode exc).filter (· ∈ expectedRejectionPgcodes) with
    | some code => exact opens_say _
    | none => exact (opens_call _).bind fun _ => opens_raise _

/-- The three checks of a profile. -/
def smokeChecks (env : SmokeEnv) (profile : Profile) (table : PyStr) : Smoking Unit := do
  verifyReadPath env profile table
  verifyAuditUnreadable env profile
  verifyWriteRejected env profile table

theorem opens_smokeChecks (profile : Profile) (table : PyStr) :
    Opens profile.role table [.readPath, .auditUnreadable, .writeRejected]
      (smokeChecks env profile table) := by
  unfold smokeChecks
  exact (opens_verifyReadPath profile table).bind fun _ =>
    (opens_verifyAuditUnreadable profile table).bind fun _ => opens_verifyWriteRejected profile table

end Opens

end McpSql
