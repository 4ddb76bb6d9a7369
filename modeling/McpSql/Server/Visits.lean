import McpSql.Executor.AuditMirror
import McpSql.Executor.AuditStored
import McpSql.Foundations.Journal

/-!
# Visits to the endpoint

A run of the server is a history of requests to `/mcp/sql/`, each with a tool call and with what its
handling meets outside.  What a visit adds to the statements sent to the read database, to the audit
rows and to the rejection rows is computed here from the state it is handled in; `serve_journals`
says that handling it adds exactly that.
-/

namespace McpSql

open Python PyStr Effect GuardedRun

/-- A request to `/mcp/sql/` with a tool call, and what its handling meets outside: the settings of
the moment, and the answers of the databases, of the cache and of django-oauth-toolkit. -/
structure Visit where
  env : ExecutorEnv
  auth : AuthEnv
  fields : PyStr → List (PyStr × ColumnInfo)
  request : McpRequest
  tool : ToolCall

namespace ToolCall

/-- The tool that is called. -/
def toolName : ToolCall → ToolName
  | runQuery _ _ => .runQuery
  | listTables => .listTables
  | describeTable _ => .describeTable

/-- What the audit row of a call records as the request: the query, or the target of the tool. -/
def detail [UnicodeDatabase] : ToolCall → PyStr
  | runQuery rawSql _ => rawSql
  | listTables => []
  | describeTable name => lit "describe_table(" ++ PyStr.repr name ++ lit ")"

end ToolCall

section Visits

variable [UnicodeDatabase]

/-- The state a visit leaves behind, whatever it answers. -/
def Visit.serve (v : Visit) (w : World) : World :=
  finalState ((mcpEndpoint v.env v.auth v.fields v.request v.tool).run w)

/-- Who a visit is let in as. -/
def Visit.passed (v : Visit) (w : World) : Option Authenticated :=
  match outcome ((authenticate v.env.settings v.env.faults v.auth v.request).run w) with
  | .ok passed => passed
  | .error _ => none

/-! ## What a visit adds -/

/-- The statements a tool call sends to the read database. -/
def toolStatements (env : ExecutorEnv) (p : Principal) : ToolCall → List Statement
  | .runQuery rawSql limit => transcript env (p.query rawSql limit)
  | .listTables | .describeTable _ => []

/-- The audit row of a tool call: the one of its ending, or the one of a metadata call whose models
resolve. -/
def toolRow (env : ExecutorEnv) (p : Principal) (call : ToolCall) : Option QueryLogRow :=
  match call with
  | .runQuery rawSql limit =>
    match outcome ((steps env (p.query rawSql limit)).run []) with
    | .ok ending => some (ending.row env (p.query rawSql limit))
    | .error _ => none
  | .listTables | .describeTable _ =>
    (declaredTables env p.profile).toOption.map fun _ =>
      { p.row env.startedAt .allowed call.detail with tool := call.toolName.value }

/-- The statements a visit sends to the read database. -/
def Visit.sent (v : Visit) (w : World) : List Statement :=
  match v.passed w with
  | some passed => toolStatements v.env (endpointPrincipal v.request passed) v.tool
  | none => []

/-- The audit row of a visit. -/
def Visit.row (v : Visit) (w : World) : Option QueryLogRow :=
  match v.passed w with
  | some passed => toolRow v.env (endpointPrincipal v.request passed) v.tool
  | none => none

/-- The bearer of a visit is looked up: its body is within the cap and can be read, and its IP is
not blocked. -/
def Visit.looksUp (v : Visit) (w : World) : Bool :=
  (enforceBodySizeCap v.request).toBool && v.auth.readBody.toBool &&
    (!v.request.hasAuthHeader ||
      match outcome ((isIpBlocked v.env.faults (throttleIp v.request.remoteAddr)
        (lit "bad_token") v.env.settings.badTokenIpThreshold).run w) with
      | .ok blocked => !blocked
      | .error _ => false)

/-- The rejection row of a visit: its bearer belongs to a user for whom a gate is shut. -/
def Visit.refusal (v : Visit) (w : World) : Option AuthRejectionRow :=
  if v.looksUp w then
    match v.auth.verify with
    | .ok (some (user, token)) =>
      match checkGates v.env.settings v.auth user token with
      | .ok (.inl gate) => some (rejectionRow v.auth v.request gate user token)
      | _ => none
    | _ => none
  else none

/-! ## What a call adds -/

/-- The journals of the server. -/
structure Journals where
  executed : List PyStr
  queries : List QueryLogRow
  rejections : List AuthRejectionRow

/-- The journals in a state. -/
def World.journals (w : World) : Journals :=
  ⟨w.executed, w.queryLogAttempts, w.authRejectionAttempts⟩

/-- Journals with entries added to them. -/
def Journals.add (j : Journals) (sent : List Statement) (row : Option QueryLogRow)
    (refusal : Option AuthRejectionRow) : Journals :=
  ⟨j.executed ++ sent.map Statement.sql, j.queries ++ row.toList,
    j.rejections ++ refusal.toList⟩

omit [UnicodeDatabase] in
theorem Journals.add_nothing (j : Journals) : j.add [] none none = j := by
  simp [Journals.add]

omit [UnicodeDatabase] in
theorem journals_of_sameTables {w w' : World} (h : SameTables w w') :
    w'.journals = w.journals := by
  obtain ⟨cache, log, rfl⟩ := h
  rfl

omit [UnicodeDatabase] in
theorem journals_auditSafely (env : AuditEnv) (user : User) (row : QueryLogRow) (w : World) :
    (finalState ((auditSafely env user row).run w)).journals =
      w.journals.add [] (some row) none := by
  obtain ⟨cache, log, stored, hfinal⟩ := finalState_auditSafely env user row w
  rw [hfinal]
  simp [World.journals, Journals.add]

/-- A query adds its transcript, and the row of its ending. -/
theorem journals_runQuery (env : ExecutorEnv) (p : Principal) (rawSql : PyStr)
    (limit : Option ℤ) (w : World) :
    (finalState ((runQuery env (p.query rawSql limit)).run w)).journals =
      w.journals.add (transcript env (p.query rawSql limit))
        (toolRow env p (.runQuery rawSql limit)) none := by
  unfold toolRow transcript
  rw [runQuery_eq, run_audited]
  cases hsteps : (steps env (p.query rawSql limit)).run [] with
  | ok ending sent =>
    obtain ⟨log, hfinal⟩ := finalState_conclude env (p.query rawSql limit) ending
      { w with executed := w.executed ++ sent.map Statement.sql }
    show (finalState ((conclude env (p.query rawSql limit) ending).run _)).journals = _
    rw [hfinal, journals_auditSafely]
    simp [World.journals, Journals.add, hsteps]
  | error e sent => simp [World.journals, Journals.add, hsteps]

omit [UnicodeDatabase] in
/-- A metadata call adds its row when the models of the profile resolve. -/
theorem journals_metadata (env : ExecutorEnv) (p : Principal) (row : QueryLogRow) {α : Type}
    {answer : List (PyStr × PyStr) → Py α} (hanswer : ∀ tables, Keeps Eq (answer tables))
    (w : World) :
    (finalState ((call (declaredTables env p.profile) >>= fun tables =>
      auditSafely env.toAuditEnv p.user row >>= fun _ => answer tables).run w)).journals =
      w.journals.add [] ((declaredTables env p.profile).toOption.map fun _ => row) none := by
  cases declaredTables env p.profile with
  | ok tables =>
    rw [EStateM.run_bind, run_call_ok]
    show (finalState ((_ >>= fun _ => answer tables).run w)).journals = _
    rw [finalState_bind_of_keeps (fun _ => hanswer tables), journals_auditSafely]
    rfl
  | error e => exact (Journals.add_nothing _).symm

/-- A tool call adds its statements and its row. -/
theorem journals_callTool (env : ExecutorEnv) (fields : PyStr → List (PyStr × ColumnInfo))
    (p : Principal) (tool : ToolCall) (w : World) :
    (finalState ((callTool env fields p tool).run w)).journals =
      w.journals.add (toolStatements env p tool) (toolRow env p tool) none := by
  unfold callTool
  cases tool with
  | runQuery rawSql limit =>
    simp only [finalState_discard]
    exact journals_runQuery env p rawSql limit w
  | listTables =>
    simp only [finalState_discard]
    exact journals_metadata env p _ (fun _ => .pure (fun _ => rfl) _) w
  | describeTable name =>
    simp only [finalState_discard]
    refine journals_metadata env p _ (fun tables => ?_) w
    cases tables.find? (·.2 = name) with
    | some pair => exact .pure (fun _ => rfl) _
    | none => exact .pure (fun _ => rfl) _

/-! ## What authentication adds -/

/-- A request whose bearer is not looked up changes nothing and lets nobody in; the others go on to
the bearer. -/
theorem run_authenticate_visit (v : Visit) (w : World) :
    (v.looksUp w = true ∧ (authenticate v.env.settings v.env.faults v.auth v.request).run w =
        (authenticateBearer v.env.settings v.env.faults v.auth v.request).run w) ∨
      (v.looksUp w = false ∧
        ((authenticate v.env.settings v.env.faults v.auth v.request).run w = .ok none w ∨
          ∃ e, (authenticate v.env.settings v.env.faults v.auth v.request).run w =
            .error e w)) := by
  have hkept := finalState_isIpBlocked v.env.faults (throttleIp v.request.remoteAddr)
    (lit "bad_token") v.env.settings.badTokenIpThreshold w
  unfold Visit.looksUp
  rw [run_authenticate]
  cases enforceBodySizeCap v.request with
  | error e => exact Or.inr ⟨rfl, Or.inr ⟨e, rfl⟩⟩
  | ok u =>
    cases v.auth.readBody with
    | error e => exact Or.inr ⟨rfl, Or.inr ⟨e, rfl⟩⟩
    | ok u' =>
      by_cases hheader : v.request.hasAuthHeader = true
      · simp only [hheader, if_true]
        cases hblocked : (isIpBlocked v.env.faults (throttleIp v.request.remoteAddr)
            (lit "bad_token") v.env.settings.badTokenIpThreshold).run w with
        | error e w' =>
          rw [hblocked, finalState_error] at hkept
          subst hkept
          exact Or.inr ⟨rfl, Or.inr ⟨e, rfl⟩⟩
        | ok blocked w' =>
          rw [hblocked, finalState_ok] at hkept
          subst hkept
          cases blocked with
          | true => exact Or.inr ⟨rfl, Or.inl rfl⟩
          | false => exact Or.inl ⟨rfl, rfl⟩
      · simp only [hheader]
        exact Or.inl ⟨rfl, rfl⟩

/-- Authentication adds a rejection row when a gate is shut for the user of the bearer. -/
theorem journals_authenticate (v : Visit) (w : World) :
    (finalState ((authenticate v.env.settings v.env.faults v.auth v.request).run w)).journals =
      w.journals.add [] none (v.refusal w) := by
  unfold Visit.refusal
  rcases run_authenticate_visit v w with ⟨hlooks, hrun⟩ | ⟨hlooks, hrun | ⟨e, hrun⟩⟩
  · rw [hrun, if_pos hlooks]
    unfold authenticateBearer
    cases hverify : v.auth.verify with
    | error e => exact (Journals.add_nothing _).symm
    | ok resolved =>
      rw [EStateM.run_bind, run_call_ok]
      cases resolved with
      | none =>
        rw [Journals.add_nothing]
        apply journals_of_sameTables
        by_cases hheader : v.request.hasAuthHeader = true
        · simp only [hheader, if_true]
          exact keeps_attemptThen _ _ _ _ _ _ w
        · simp only [hheader]
          exact SameTables.refl w
      | some pair =>
        obtain ⟨user, token⟩ := pair
        simp only
        unfold authenticateUser
        rw [EStateM.run_bind]
        cases checkGates v.env.settings v.auth user token with
        | error e => exact (Journals.add_nothing _).symm
        | ok verdict =>
          rw [run_call_ok]
          cases verdict with
          | inr profile => exact (Journals.add_nothing _).symm
          | inl gate =>
            obtain ⟨cache, log, hfinal⟩ :=
              finalState_rejectUser v.env.faults v.auth v.request gate user token w
            show (finalState ((rejectUser _ _ _ gate user token).run w)).journals = _
            rw [hfinal]
            simp [World.journals, Journals.add]
  · rw [hrun, hlooks]
    exact (Journals.add_nothing _).symm
  · rw [hrun, hlooks]
    exact (Journals.add_nothing _).symm

/-- A visit adds its statements, its audit row and its rejection row. -/
theorem serve_journals (v : Visit) (w : World) :
    (v.serve w).journals = w.journals.add (v.sent w) (v.row w) (v.refusal w) := by
  have hauth := journals_authenticate v w
  unfold Visit.serve Visit.sent Visit.row Visit.passed mcpEndpoint
  rw [EStateM.run_bind]
  cases hrun : (authenticate v.env.settings v.env.faults v.auth v.request).run w with
  | error e w' =>
    rw [hrun] at hauth
    exact hauth
  | ok answer w' =>
    rw [hrun, finalState_ok] at hauth
    cases answer with
    | none => exact hauth
    | some passed =>
      have hcall := journals_callTool v.env v.fields (endpointPrincipal v.request passed) v.tool w'
      simp only [outcome_ok]
      rw [hcall, hauth]
      simp [Journals.add]

end Visits

end McpSql
