import McpSql.Executor.AuditStorable

/-!
# Stored audit rows

A request of a resolved user at a healthy server: one audit row is stored, of a query, of a metadata
call or of a rejection, and counted, exactly when one is built and what is written into it fits.
-/

namespace McpSql

open Python PyStr Effect Raising

/-- A cache that works, and tables that store every row their columns can hold. -/
structure Healthy (inet : InetInput) (env : ExecutorEnv) (auth : AuthEnv) : Prop where
  cache : env.faults = healthyCache
  queryLog : ∀ row, env.createRow row = row.columns.insert inet
  rejectionLog : ∀ row, auth.createRejection row = row.columns.insert inet

/-- One query log row was built; it was storable, was stored and was counted. -/
def QueryRowStored (inet : InetInput) (settings : Settings) (user : User) (w w' : World) : Prop :=
  ∃ row, w'.queryLogAttempts = w.queryLogAttempts ++ [row] ∧ row.columns.Storable inet ∧
    w'.queryLog = w.queryLog ++ [row] ∧
      VolumeCounted settings user row.decision w.cache w'.cache

/-- One rejection row was built; it was storable and was stored. -/
def RejectionRowStored (inet : InetInput) (w w' : World) : Prop :=
  ∃ row, w'.authRejectionAttempts = w.authRejectionAttempts ++ [row] ∧
    row.columns.Storable inet ∧ w'.authRejectionLog = w.authRejectionLog ++ [row]

/-- Exactly one audit row was built between two states, and it is in its table. -/
def RowStored (inet : InetInput) (settings : Settings) (user : User) (w w' : World) : Prop :=
  QueryRowStored inet settings user w w' ∧
      w'.authRejectionAttempts = w.authRejectionAttempts ∨
    RejectionRowStored inet w w' ∧ w'.queryLogAttempts = w.queryLogAttempts

section RowStored

variable {inet : InetInput} {settings : Settings} {user : User} {w w' : World}

/-- When no row was built, none was stored. -/
theorem not_rowStored (hattempts : w'.queryLogAttempts = w.queryLogAttempts)
    (hrejections : w'.authRejectionAttempts = w.authRejectionAttempts) :
    ¬RowStored inet settings user w w' := by
  rintro (⟨⟨row, hbuilt, -⟩, -⟩ | ⟨⟨row, hbuilt, -⟩, -⟩)
  · simp [hattempts] at hbuilt
  · simp [hrejections] at hbuilt

/-- When a query log row was built, it is the row in question. -/
theorem rowStored_query_iff {row : QueryLogRow}
    (hattempts : w'.queryLogAttempts = w.queryLogAttempts ++ [row])
    (hrejections : w'.authRejectionAttempts = w.authRejectionAttempts) :
    RowStored inet settings user w w' ↔ row.columns.Storable inet ∧
      w'.queryLog = w.queryLog ++ [row] ∧
        VolumeCounted settings user row.decision w.cache w'.cache := by
  constructor
  · rintro (⟨⟨row', hattempts', hstored⟩, -⟩ | ⟨-, hnone⟩)
    · obtain rfl : row = row' := by simpa [hattempts] using hattempts'
      exact hstored
    · simp [hattempts] at hnone
  · intro hstored
    exact Or.inl ⟨⟨row, hattempts, hstored⟩, hrejections⟩

/-- When a rejection row was built, it is the row in question. -/
theorem rowStored_rejection_iff {row : AuthRejectionRow}
    (hattempts : w'.queryLogAttempts = w.queryLogAttempts)
    (hrejections : w'.authRejectionAttempts = w.authRejectionAttempts ++ [row]) :
    RowStored inet settings user w w' ↔
      row.columns.Storable inet ∧ w'.authRejectionLog = w.authRejectionLog ++ [row] := by
  constructor
  · rintro (⟨-, hnone⟩ | ⟨⟨row', hrejections', hstored⟩, -⟩)
    · simp [hrejections] at hnone
    · obtain rfl : row = row' := by simpa [hrejections] using hrejections'
      exact hstored
  · intro hstored
    exact Or.inr ⟨⟨row, hrejections, hstored⟩, hattempts⟩

end RowStored

section Healthy

variable {inet : InetInput} {env : ExecutorEnv} {auth : AuthEnv}

/-! ## Rows of the query log -/

/-- A query log row is stored when it is storable. -/
theorem rowStored_auditSafely_iff (h : Healthy inet env auth) (user : User) (row : QueryLogRow)
    (w : World) (log : List LogRecord) (executed : List PyStr) :
    RowStored inet env.settings user w (finalState ((auditSafely env.toAuditEnv user row).run
      { w with log := log, executed := executed })) ↔ row.columns.Storable inet := by
  obtain ⟨cache, log', stored, hfinal⟩ := finalState_auditSafely env.toAuditEnv user row
    { w with log := log, executed := executed }
  have hattempts : (finalState ((auditSafely env.toAuditEnv user row).run
      { w with log := log, executed := executed })).queryLogAttempts =
        w.queryLogAttempts ++ [row] := by rw [hfinal]
  have hrejections : (finalState ((auditSafely env.toAuditEnv user row).run
      { w with log := log, executed := executed })).authRejectionAttempts =
        w.authRejectionAttempts := by rw [hfinal]
  rw [rowStored_query_iff hattempts hrejections]
  constructor
  · rintro ⟨hstorable, -⟩
    exact hstorable
  · intro hstorable
    have hstored : env.createRow row = .ok () := by
      rw [h.queryLog, Columns.insert_eq_ok]
      exact hstorable
    obtain ⟨cache', log'', hrun, hcounted⟩ := run_auditSafely_stored h.cache user hstored
      { w with log := log, executed := executed }
    rw [hrun, finalState_ok]
    exact ⟨hstorable, rfl, hcounted⟩

/-- The row of a metadata call is stored when the models resolve and the principal fits. -/
theorem rowStored_metadata_iff (h : Healthy inet env auth) (p : Principal) (tool : ToolName)
    {detail : PyStr} (hdetail : isClean detail = true) {α : Type}
    {answer : List (PyStr × PyStr) → Py α} (hanswer : ∀ tables, Keeps Eq (answer tables))
    (w : World) :
    RowStored inet env.settings p.user w (finalState ((call (declaredTables env p.profile) >>=
      fun tables => auditToolCall env p tool detail >>= fun _ => answer tables).run w)) ↔
      (∀ entry ∈ p.profile.allowedModels, ∃ table, env.getModel entry = .ok table) ∧
        p.Fits inet := by
  rw [← declaredTables_returns_iff]
  cases htables : declaredTables env p.profile with
  | ok tables =>
    have hfinal : finalState ((auditToolCall env p tool detail >>= fun _ => answer tables).run w) =
        finalState ((auditToolCall env p tool detail).run w) :=
      finalState_bind_of_keeps (fun _ => hanswer tables) w
    have hrow := rowStored_auditSafely_iff h p.user
      { p.row env.startedAt .allowed detail with tool := tool.value } w w.log w.executed
    rw [storable_toolRow_iff] at hrow
    rw [EStateM.run_bind, run_call_ok]
    simp only [hfinal, Except.ok.injEq, exists_eq', true_and]
    exact hrow.trans (and_iff_left hdetail)
  | error e =>
    simp only [reduceCtorEq, exists_false, false_and, iff_false]
    exact not_rowStored rfl rfl

section Tools

variable [UnicodeDatabase]

/-- The row of a query is stored when its steps are handled and the principal, the query and what
comes from outside fit. -/
theorem rowStored_runQuery_iff (h : Healthy inet env auth) (q : QueryCall) (w : World) :
    RowStored inet env.settings q.user w (finalState ((runQuery env q).run w)) ↔
      StepsHandled env q ∧
        q.toPrincipal.Fits inet ∧ isClean q.rawSql = true ∧ OutsideFits env q := by
  rw [runQuery_eq, run_audited, ← returns_steps_iff]
  cases hsteps : (steps env q).run [] with
  | ok ending sent =>
    have houtcome : outcome ((steps env q).run []) = .ok ending := by rw [hsteps, outcome_ok]
    have hreturns : Returns (steps env q) := ⟨ending, houtcome⟩
    have hfits : ending.Fits env ↔ OutsideFits env q := by
      rw [← endsFit_steps_iff ((returns_steps_iff env q).mp hreturns)]
      unfold EndsFit
      rw [houtcome]
      simp
    obtain ⟨log, hfinal⟩ := finalState_conclude env q ending
      { w with executed := w.executed ++ sent.map Statement.sql }
    simp only [hreturns, true_and]
    rw [hfinal, ← hfits, ← storable_endingRow_iff inet env q ending]
    exact rowStored_auditSafely_iff h q.user _ w log _
  | error e sent =>
    have hraises : ¬Returns (steps env q) := by
      rintro ⟨ending, hending⟩
      rw [hsteps] at hending
      simp at hending
    simp only [hraises, false_and, iff_false]
    exact not_rowStored rfl rfl

/-- A call that builds a row: its steps reach an audit. -/
def BuildsRow (env : ExecutorEnv) (p : Principal) : ToolCall → Prop
  | .runQuery rawSql limit => StepsHandled env (p.query rawSql limit)
  | .listTables | .describeTable _ =>
    ∀ entry ∈ p.profile.allowedModels, ∃ table, env.getModel entry = .ok table

/-- What a call brings into its row fits. -/
def BringsFit (env : ExecutorEnv) (p : Principal) : ToolCall → Prop
  | .runQuery rawSql limit => isClean rawSql = true ∧ OutsideFits env (p.query rawSql limit)
  | .listTables | .describeTable _ => True

/-- The row of a tool call is stored when it is built and the principal and the call fit. -/
theorem rowStored_callTool_iff (h : Healthy inet env auth)
    (fields : PyStr → List (PyStr × ColumnInfo)) (p : Principal) (tool : ToolCall) (w : World) :
    RowStored inet env.settings p.user w (finalState ((callTool env fields p tool).run w)) ↔
      BuildsRow env p tool ∧ p.Fits inet ∧ BringsFit env p tool := by
  unfold callTool BuildsRow BringsFit
  cases tool with
  | runQuery rawSql limit =>
    simp only [finalState_discard]
    exact rowStored_runQuery_iff h (p.query rawSql limit) w
  | listTables =>
    simp only [finalState_discard, and_true]
    exact rowStored_metadata_iff h p .listTables rfl (fun _ => .pure (fun _ => rfl) _) w
  | describeTable name =>
    have hdetail : isClean (lit "describe_table(" ++ PyStr.repr name ++ lit ")") = true := by
      rw [isClean_append, isClean_append, isClean_repr]
      decide
    simp only [finalState_discard, and_true]
    refine rowStored_metadata_iff h p .describeTable hdetail (fun tables => ?_) w
    cases tables.find? (·.2 = name) with
    | some pair => exact .pure (fun _ => rfl) _
    | none => exact .pure (fun _ => rfl) _

end Tools

/-! ## Rows of the rejection log -/

/-- What a token brings into the row of a rejection fits. -/
def AccessToken.Fits (token : AccessToken) : Prop :=
  FitsChar 64 token.pk ∧ FitsChar 255 token.application.name ∧
    FitsChar 1024 token.application.redirectUris

theorem storable_rejectionRow_iff (inet : InetInput) (auth : AuthEnv) (request : McpRequest)
    (gate : Gate) (user : User) (token : AccessToken) :
    (rejectionRow auth request gate user token).columns.Storable inet ↔
      FitsAddress inet request.remoteAddr ∧ token.Fits := by
  rw [storable_authRejectionRow_iff]
  simp only [rejectionRow, fitsChar_gate, isClean_gate, and_true, true_and, AccessToken.Fits]

/-- The row of a rejection is stored when the address and the token fit. -/
theorem rowStored_rejectUser_iff (h : Healthy inet env auth) (request : McpRequest) (gate : Gate)
    (user : User) (token : AccessToken) (w : World) :
    RowStored inet env.settings user w
        (finalState ((rejectUser env.faults auth request gate user token).run w)) ↔
      FitsAddress inet request.remoteAddr ∧ token.Fits := by
  obtain ⟨cache, log, hfinal⟩ := finalState_rejectUser env.faults auth request gate user token w
  have hattempts : (finalState ((rejectUser env.faults auth request gate user token).run
      w)).queryLogAttempts = w.queryLogAttempts := by rw [hfinal]
  have hrejections : (finalState ((rejectUser env.faults auth request gate user token).run
      w)).authRejectionAttempts =
        w.authRejectionAttempts ++ [rejectionRow auth request gate user token] := by rw [hfinal]
  have hanswer : auth.createRejection (rejectionRow auth request gate user token) = .ok () ↔
      (rejectionRow auth request gate user token).columns.Storable inet := by
    rw [h.rejectionLog, Columns.insert_eq_ok]
  rw [rowStored_rejection_iff hattempts hrejections, hfinal,
    ← storable_rejectionRow_iff inet auth request gate user token]
  refine and_iff_left_of_imp fun hstorable => ?_
  simp only [hanswer.mpr hstorable, if_true]

end Healthy

/-! ## A request -/

section Request

variable [UnicodeDatabase]

/-- A request whose bearer token is looked up: the body is within its cap and can be read, and the
IP of a request with a bearer is not blocked. -/
def ReachesBearer (settings : Settings) (auth : AuthEnv) (request : McpRequest) (w : World) :
    Prop :=
  enforceBodySizeCap request = .ok () ∧ auth.readBody = .ok () ∧
    (request.hasAuthHeader = true →
      w.cache.count (ipKey (lit "bad_token") (throttleIp request.remoteAddr)) <
        settings.badTokenIpThreshold)

/-- A request of a resolved user that builds an audit row. -/
def RequestBuildsRow (env : ExecutorEnv) (auth : AuthEnv) (request : McpRequest) (user : User)
    (token : AccessToken) (tool : ToolCall) (w : World) : Prop :=
  ReachesBearer env.settings auth request w ∧
    match checkGates env.settings auth user token with
    | .error _ => False
    | .ok (.inl _) => True
    | .ok (.inr profile) => BuildsRow env (endpointPrincipal request ⟨user, token, profile⟩) tool

/-- What the settings and the call bring into the row fits: the name of the application in a
rejection, the name of the profile and what the call brings behind the gates. -/
def RequestFits (env : ExecutorEnv) (auth : AuthEnv) (request : McpRequest) (user : User)
    (token : AccessToken) (tool : ToolCall) : Prop :=
  match checkGates env.settings auth user token with
  | .error _ => True
  | .ok (.inl _) => FitsChar 255 token.application.name
  | .ok (.inr profile) => FitsChar 64 profile.name ∧
      BringsFit env (endpointPrincipal request ⟨user, token, profile⟩) tool

variable {env : ExecutorEnv} {auth : AuthEnv} {user : User} {token : AccessToken}

/-- With a cache that works, a request that does not reach the lookup changes nothing, and one that
does is the request of its resolved user. -/
theorem run_authenticate_healthy (hcache : env.faults = healthyCache)
    (hverify : auth.verify = .ok (some (user, token))) (request : McpRequest) (w : World) :
    (ReachesBearer env.settings auth request w ∧
        (authenticate env.settings env.faults auth request).run w =
          (authenticateUser env.settings env.faults auth request user token).run w) ∨
      (¬ReachesBearer env.settings auth request w ∧
        ((authenticate env.settings env.faults auth request).run w = .ok none w ∨
          ∃ e, (authenticate env.settings env.faults auth request).run w = .error e w)) := by
  have hbearer : (authenticateBearer env.settings env.faults auth request).run w =
      (authenticateUser env.settings env.faults auth request user token).run w := by
    unfold authenticateBearer
    rw [EStateM.run_bind, hverify, run_call_ok]
  unfold ReachesBearer
  rw [run_authenticate, run_isIpBlocked, hcache]
  cases enforceBodySizeCap request with
  | error e => simp
  | ok u =>
    cases auth.readBody with
    | error e => simp
    | ok u' =>
      by_cases hheader : request.hasAuthHeader = true
      · by_cases hblocked : env.settings.badTokenIpThreshold ≤
            w.cache.count (ipKey (lit "bad_token") (throttleIp request.remoteAddr))
        · simp [hheader, hblocked, healthyCache]
        · rw [hcache] at hbearer
          simp [hheader, hblocked, healthyCache, hbearer, Nat.lt_of_not_le hblocked]
      · rw [hcache] at hbearer
        simp [hheader, hbearer]

/-- The row of a request is stored when it is built and the stored redirect URIs, the token, the
address and what the settings and the call bring fit. -/
theorem rowStored_mcpEndpoint_iff {inet : InetInput} (h : Healthy inet env auth)
    (hverify : auth.verify = .ok (some (user, token)))
    (fields : PyStr → List (PyStr × ColumnInfo)) (request : McpRequest) (tool : ToolCall)
    (w : World) :
    RowStored inet env.settings user w
        (finalState ((mcpEndpoint env auth fields request tool).run w)) ↔
      RequestBuildsRow env auth request user token tool w ∧
        FitsChar 1024 token.application.redirectUris ∧ FitsChar 64 token.pk ∧
          FitsAddress inet request.remoteAddr ∧ RequestFits env auth request user token tool := by
  unfold mcpEndpoint RequestBuildsRow RequestFits
  rw [EStateM.run_bind]
  rcases run_authenticate_healthy h.cache hverify request w with
    ⟨hreached, hrun⟩ | ⟨hstopped, hrun | ⟨e, hrun⟩⟩
  · rw [hrun]
    unfold authenticateUser
    rw [EStateM.run_bind]
    cases hgates : checkGates env.settings auth user token with
    | error e =>
      simp only [run_call_error, finalState_error, and_false, false_and, iff_false]
      exact not_rowStored rfl rfl
    | ok verdict =>
      rw [run_call_ok]
      cases verdict with
      | inl gate =>
        have hrejected := rowStored_rejectUser_iff h request gate user token w
        have hnever := outcome_rejectUser_ne env.faults auth request gate user token w
        simp only [hreached, true_and]
        cases hreject : (rejectUser env.faults auth request gate user token).run w with
        | ok answer w' =>
          rw [hreject] at hnever
          exact absurd rfl (hnever answer)
        | error e w' =>
          rw [hreject, finalState_error] at hrejected
          simp only [finalState_error]
          rw [hrejected]
          unfold AccessToken.Fits
          tauto
      | inr profile =>
        have hcall := rowStored_callTool_iff h fields
          (endpointPrincipal request ⟨user, token, profile⟩) tool w
        simp only [hreached, true_and, EStateM.run_pure]
        refine hcall.trans (and_congr_right fun _ => ?_)
        unfold Principal.Fits endpointPrincipal
        tauto
  · simp only [hrun, hstopped, false_and, iff_false, EStateM.run_pure, finalState_ok]
    exact not_rowStored rfl rfl
  · simp only [hrun, hstopped, false_and, iff_false, finalState_error]
    exact not_rowStored rfl rfl

end Request

/-! ## A registered client -/

/-- A registration of given redirect URIs. -/
def registrationOfAll (uris : List PyStr) : RegisterRequest where
  body := .ok (.obj [(lit "redirect_uris", .arr (uris.map .str))])
  remoteAddr := some (lit "203.0.113.7")
  registrationUri := lit "https://example.org/o/register"

/-- The row it leaves behind. -/
def rowOfAll (uris : List PyStr) : Application :=
  applicationRow (newClientId exampleSettings exampleRegisterEnv)
    ⟨uris, .str (lit "Unnamed MCP client")⟩

theorem stores_rowOfAll [UnicodeDatabase] {uris : List PyStr} (hne : uris ≠ [])
    (h : ∀ u ∈ uris, isLoopbackRedirect u = .ok true) :
    Stores exampleSettings healthyCache exampleRegisterEnv (registrationOfAll uris) emptyWorld
      (rowOfAll uris) := by
  have hvalid : validateRegistration (registrationOfAll uris).body =
      .ok (.inr ⟨uris, .str (lit "Unnamed MCP client")⟩) := by
    have hcheck : checkRedirectUris (uris.map .str) = .ok (.inr uris) := by
      refine checkRedirectUris_eq_inr.mpr ⟨?_, h⟩
      rw [List.map_map]
      rfl
    cases uris with
    | nil => exact absurd rfl hne
    | cons first rest =>
      show (checkRedirectUris (.str first :: rest.map .str) >>= _) = _
      rw [List.map_cons] at hcheck
      rw [hcheck]
      rfl
  unfold Stores registerClient
  rw [hvalid]
  rfl

/-- A token of that row. -/
def tokenOfAll (uris : List PyStr) : AccessToken where
  pk := lit "1"
  application := rowOfAll uris
  scope := some (lit "mcp:sql")

/-- The outside of a request of `cohortUser` with that token. -/
def authOfAll (uris : List PyStr) : AuthEnv :=
  { cohortEnv with
    verify := .ok (some (cohortUser, tokenOfAll uris))
    createRejection := fun row => row.columns.insert dottedQuad }

/-- A server whose tables and cache work. -/
def exampleServer : ExecutorEnv := exampleExecutorEnv unterminatedSqlglot fun _ => []

theorem healthy_exampleServer (uris : List PyStr) :
    Healthy dottedQuad exampleServer (authOfAll uris) :=
  ⟨rfl, fun _ => rfl, fun _ => rfl⟩

/-- Whatever the client registered, its request passes the gates. -/
theorem checkGates_tokenOfAll (uris : List PyStr) :
    checkGates exampleSettings (authOfAll uris) cohortUser (tokenOfAll uris) =
      .ok (.inr ⟨lit "default", lit "mcp_readonly_role", lit "use_mcp_session",
        lit "mcp_sql_users", [lit "notes.Note"], none⟩) := rfl

/-- A request with a token of a registered client leaves one stored row exactly when it builds one,
the submitted redirect URIs, joined by spaces, fit into 1024 characters, the peer's address is one the
database reads, and everything else that is written into the row fits. -/
theorem audit_stored_iff [UnicodeDatabase] (inet : InetInput) (env : ExecutorEnv) (auth : AuthEnv)
    (faults : CacheFaults) (renv : RegisterEnv) (registration : RegisterRequest) (w₀ : World)
    (application : Application) (fields : PyStr → List (PyStr × ColumnInfo)) (request : McpRequest)
    (user : User) (token : AccessToken) (tool : ToolCall) (w : World)
    (hhealthy : Healthy inet env auth)
    (hregistered : Stores env.settings faults renv registration w₀ application)
    (hverify : auth.verify = .ok (some (user, token))) (htoken : token.application = application) :
    RowStored inet env.settings user w
        (finalState ((mcpEndpoint env auth fields request tool).run w)) ↔
      RequestBuildsRow env auth request user token tool w ∧
        FitsChar 1024 (joinSpace (submittedUris registration.body)) ∧ FitsChar 64 token.pk ∧
          FitsAddress inet request.remoteAddr ∧ RequestFits env auth request user token tool := by
  obtain ⟨hjoined, -⟩ := redirectUris_of_stores hregistered
  rw [rowStored_mcpEndpoint_iff hhealthy hverify, htoken, hjoined]

/-- A request of the example server with a token of any registered client builds a row. -/
theorem requestBuildsRow_listTables [UnicodeDatabase] (uris : List PyStr) :
    RequestBuildsRow exampleServer (authOfAll uris) bearerRequest cohortUser (tokenOfAll uris)
      .listTables emptyWorld := by
  refine ⟨⟨rfl, rfl, fun _ => by decide⟩, ?_⟩
  rw [show exampleServer.settings = exampleSettings from rfl, checkGates_tokenOfAll]
  exact fun entry _ => ⟨lit "notes", rfl⟩

theorem audit_stored_iff_listTables :
    letI := asciiDatabase
    RowStored dottedQuad exampleSettings cohortUser emptyWorld (finalState ((mcpEndpoint
      exampleServer (authOfAll [lit "http://127.0.0.1/cb"]) (fun _ => []) bearerRequest
        .listTables).run emptyWorld)) := by
  let _ := asciiDatabase
  have hstores : Stores exampleSettings healthyCache exampleRegisterEnv
      (registrationOfAll [lit "http://127.0.0.1/cb"]) emptyWorld
      (rowOfAll [lit "http://127.0.0.1/cb"]) := stores_rowOfAll (by decide) (by decide)
  refine (audit_stored_iff dottedQuad exampleServer (authOfAll [lit "http://127.0.0.1/cb"])
    healthyCache exampleRegisterEnv (registrationOfAll [lit "http://127.0.0.1/cb"]) emptyWorld
    (rowOfAll [lit "http://127.0.0.1/cb"]) (fun _ => []) bearerRequest cohortUser
    (tokenOfAll [lit "http://127.0.0.1/cb"]) .listTables emptyWorld
    (healthy_exampleServer _) hstores rfl rfl).mpr
      ⟨requestBuildsRow_listTables _, by decide, by decide,
        Or.inr (Or.inr ⟨lit "203.0.113.7", rfl, by decide⟩), ?_⟩
  unfold RequestFits
  rw [show exampleServer.settings = exampleSettings from rfl, checkGates_tokenOfAll]
  exact ⟨by decide, trivial⟩

/-- Sixty loopback URIs. -/
def sixtyUris : List PyStr := List.replicate 60 (lit "http://127.0.0.1/cb")

/-- Sixty short redirect URIs make a value that the column does not hold, and the row that is built
is not stored. -/
theorem audit_not_always_stored :
    ¬∀ (_ : UnicodeDatabase) (inet : InetInput) (env : ExecutorEnv) (auth : AuthEnv)
        (faults : CacheFaults) (renv : RegisterEnv) (registration : RegisterRequest) (w₀ : World)
        (application : Application) (fields : PyStr → List (PyStr × ColumnInfo))
        (request : McpRequest) (user : User) (token : AccessToken) (tool : ToolCall) (w : World),
      Healthy inet env auth → Stores env.settings faults renv registration w₀ application →
        auth.verify = .ok (some (user, token)) → token.application = application →
          RequestBuildsRow env auth request user token tool w →
            RowStored inet env.settings user w
              (finalState ((mcpEndpoint env auth fields request tool).run w)) := by
  intro hstored
  let _ := asciiDatabase
  have hloopback : ∀ u ∈ sixtyUris, isLoopbackRedirect u = .ok true := by
    intro u hu
    obtain rfl := List.eq_of_mem_replicate hu
    decide
  have hlong : ¬(joinSpace sixtyUris).length ≤ 1024 := by decide +kernel
  have hrow := hstored asciiDatabase dottedQuad exampleServer (authOfAll sixtyUris) healthyCache
    exampleRegisterEnv (registrationOfAll sixtyUris) emptyWorld (rowOfAll sixtyUris)
    (fun _ => []) bearerRequest cohortUser (tokenOfAll sixtyUris) .listTables emptyWorld
    (healthy_exampleServer _) (stores_rowOfAll (by decide) hloopback) rfl rfl
    (requestBuildsRow_listTables _)
  rw [rowStored_mcpEndpoint_iff (healthy_exampleServer _) rfl] at hrow
  obtain ⟨-, ⟨hfits, -⟩, -⟩ := hrow
  exact hlong hfits

end McpSql
