import McpSql.Conf
import McpSql.Foundations.Raising
import McpSql.Python.Int
import McpSql.Throttle

/-!
# `MCPOAuth2Authentication`

The authentication of an MCP request (`auth.py`): the body cap, the per-IP throttle, the bearer
lookup of django-oauth-toolkit, and the gates that are checked again on every request.
-/

namespace McpSql

open Python PyStr Effect

/-- The parts of an MCP request that are read here. -/
structure McpRequest where
  contentLength : Option PyStr
  authorization : Option PyStr
  remoteAddr : Option PyStr
  deriving DecidableEq, Repr

/-- What authentication reads from outside: the request body, django-oauth-toolkit, the configured
MFA checker, the permission and session tables, the clock, and the database's answer to the insert
of an audit row. -/
structure AuthEnv where
  readBody : Except PyExc Unit
  verify : Except PyExc (Option (User × AccessToken))
  mfaChecker : User → Except PyExc Bool
  permissions : User → Except PyExc (List Permission)
  liveSession : PyStr → User → Except PyExc Bool
  now : ℕ
  createRejection : AuthRejectionRow → Except PyExc Unit

/-- A request that passed: the user, the token and the profile bound to the request. -/
structure Authenticated where
  user : User
  token : AccessToken
  mcpProfile : Profile
  deriving DecidableEq, Repr

/-! ## The body cap -/

/-- `MCP_REQUEST_BODY_MAX_BYTES`. -/
def mcpRequestBodyMaxBytes : ℤ := 1024 * 1024

/-- `normalize_content_length`. -/
def normalizeContentLength [UnicodeDatabase] (request : McpRequest) : ℤ :=
  match request.contentLength with
  | some (c :: rest) => (pyInt (c :: rest)).getD 0
  | _ => 0

/-- `_enforce_body_size_cap`. -/
def enforceBodySizeCap [UnicodeDatabase] (request : McpRequest) : Except PyExc Unit :=
  if mcpRequestBodyMaxBytes < normalizeContentLength request then
    .error (.payloadTooLarge (lit "Request body exceeds the /mcp/sql/ cap of 1048576 bytes."))
  else .ok ()

/-- `bool(request.headers.get("authorization"))`. -/
def McpRequest.hasAuthHeader (request : McpRequest) : Bool :=
  request.authorization.any fun value => value ≠ []

/-! ## The gates -/

/-- The gates below the bearer lookup, in the order of the code. -/
inductive Gate where
  | application
  | scope
  | activeStaff
  | mfa
  | profilePermission
  | singleProfile
  | session
  deriving DecidableEq, Repr

/-- The reason a gate is audited with. -/
def Gate.reason : Gate → AuthRejectionReason
  | application => .badApplication
  | scope => .badScope
  | activeStaff => .inactiveOrNonStaff
  | mfa => .noMfa
  | profilePermission => .noPerm
  | singleProfile => .ambiguousProfile
  | session => .noSession

/-- The message of a gate. -/
def Gate.message : Gate → PyStr
  | application => lit "Token was not issued by an mcp-sql Application."
  | scope => lit "Token does not carry the mcp:sql scope."
  | activeStaff => lit "User is not an active staff member."
  | mfa => lit "User does not have a verified TOTP device."
  | profilePermission => lit "User holds no MCP profile permission."
  | singleProfile => lit "User is assigned to more than one MCP profile; access is " ++
      lit "denied until exactly one remains."
  | session => lit "No active web session — re-login at the Django UI to " ++
      lit "re-issue MCP access."

/-- The session gate: without `SESSION_MODEL` it is open. -/
def hasLiveSession (settings : Settings) (env : AuthEnv) (user : User) : Except PyExc Bool :=
  match settings.sessionModel with
  | some (c :: rest) => env.liveSession (c :: rest) user
  | _ => .ok true

/-- The gates of `authenticate`: the first that is shut, or the profile the user is bound to. -/
def checkGates (settings : Settings) (env : AuthEnv) (user : User) (token : AccessToken) :
    Except PyExc (Gate ⊕ Profile) := do
  if ¬isMcpApplicationName settings token.application.name then
    return .inl .application
  if settings.scope ∉ split (token.scope.getD []) then
    return .inl .scope
  if ¬(user.isActive && user.isStaff) then
    return .inl .activeStaff
  if ¬(← env.mfaChecker user) then
    return .inl .mfa
  match resolveProfile settings (← env.permissions user) with
  | .noPerm => return .inl .profilePermission
  | .ambiguousProfile => return .inl .singleProfile
  | .bound profile =>
    if ¬(← hasLiveSession settings env user) then
      return .inl .session
    return .inr profile

/-! ## Rejection -/

/-- The row of a rejected user. -/
def rejectionRow (env : AuthEnv) (request : McpRequest) (gate : Gate) (user : User)
    (token : AccessToken) : AuthRejectionRow where
  user := user.pk
  tokenPk := token.pk
  applicationName := token.application.name
  clientRedirect := token.application.redirectUris
  reason := gate.reason
  error := gate.message
  clientIp := request.remoteAddr
  startedAt := env.now

/-- `MCPAuthRejectionLog.objects.create`. -/
def createRejectionRow (env : AuthEnv) (row : AuthRejectionRow) : Py Unit := do
  modify fun w => { w with authRejectionAttempts := w.authRejectionAttempts ++ [row] }
  call (env.createRejection row)
  modify fun w => { w with authRejectionLog := w.authRejectionLog ++ [row] }

/-- The log message of an audit row that could not be written. -/
def auditFailedMessage (row : AuthRejectionRow) : PyStr :=
  lit "Failed to write MCPAuthRejectionLog (reason=" ++ row.reason.value ++ lit ")"

/-- `_audit_rejection`. -/
def auditRejection (env : AuthEnv) (row : AuthRejectionRow) : Py Unit :=
  catching PyExc.isDatabaseError (createRejectionRow env row) fun _ =>
    emit .exception (auditFailedMessage row)

/-- `_AMBIGUOUS_WARN_DEDUP_SECONDS`. -/
def ambiguousWarnDedupSeconds : ℕ := 3600

/-- The warning of the ambiguous-profile branch, once per user and window. -/
def warnAmbiguous (faults : CacheFaults) (user : User) : Py Unit := do
  if ← cacheAdd faults .warnAdd (lit "mcp_sql:ambiguous_warned:" ++ user.pk) 1
      ambiguousWarnDedupSeconds then
    emit .warning (lit "MCP profile resolution ambiguous for user " ++ user.username ++
      lit " (pk=" ++ user.pk ++ lit "): assigned to >1 profile; denying until resolved.")

/-- What a shut gate does after the audit: warn if it is the ambiguous one, and raise. -/
def shutGate (faults : CacheFaults) (gate : Gate) (user : User) : Py (Option Authenticated) := do
  if gate = .singleProfile then
    warnAmbiguous faults user
  raise (.authenticationFailed gate.message)

/-- The rejection of a user: audit, then raise. -/
def rejectUser (faults : CacheFaults) (env : AuthEnv) (request : McpRequest) (gate : Gate)
    (user : User) (token : AccessToken) : Py (Option Authenticated) := do
  auditRejection env (rejectionRow env request gate user token)
  shutGate faults gate user

/-! ## Authentication -/

/-- The request of a user django-oauth-toolkit resolved. -/
def authenticateUser (settings : Settings) (faults : CacheFaults) (env : AuthEnv)
    (request : McpRequest) (user : User) (token : AccessToken) : Py (Option Authenticated) := do
  match ← call (checkGates settings env user token) with
  | .inl gate => rejectUser faults env request gate user token
  | .inr profile => return some ⟨user, token, profile⟩

/-- The bearer lookup, and what follows from it. -/
def authenticateBearer (settings : Settings) (faults : CacheFaults) (env : AuthEnv)
    (request : McpRequest) : Py (Option Authenticated) := do
  match ← call env.verify with
  | none =>
    if request.hasAuthHeader then
      let _ ← recordAttempt faults (throttleIp request.remoteAddr) (lit "bad_token")
        settings.badTokenIpWindowSeconds settings.badTokenIpThreshold
    return none
  | some (user, token) => authenticateUser settings faults env request user token

/-- `MCPOAuth2Authentication.authenticate`. -/
def authenticate [UnicodeDatabase] (settings : Settings) (faults : CacheFaults) (env : AuthEnv)
    (request : McpRequest) : Py (Option Authenticated) := do
  call (enforceBodySizeCap request)
  call env.readBody
  if request.hasAuthHeader then
    if ← isIpBlocked faults (throttleIp request.remoteAddr) (lit "bad_token")
        settings.badTokenIpThreshold then
      return none
  authenticateBearer settings faults env request

/-! ## What the audit leaves behind -/

/-- The audit attempts one row; a `DatabaseError` is logged, and any other exception escapes. -/
theorem run_auditRejection (env : AuthEnv) (row : AuthRejectionRow) (w : World) :
    (auditRejection env row).run w =
      match env.createRejection row with
      | .ok _ => .ok () { w with
          authRejectionAttempts := w.authRejectionAttempts ++ [row]
          authRejectionLog := w.authRejectionLog ++ [row] }
      | .error e =>
        if e.isDatabaseError then .ok () { w with
          authRejectionAttempts := w.authRejectionAttempts ++ [row]
          log := w.log ++ [⟨.exception, auditFailedMessage row⟩] }
        else .error e { w with authRejectionAttempts := w.authRejectionAttempts ++ [row] } := by
  unfold auditRejection createRejectionRow
  simp only [run_catching, EStateM.run_bind, EStateM.run_modify]
  cases env.createRejection row with
  | ok u => rfl
  | error e => rfl

theorem keeps_warnAmbiguous (faults : CacheFaults) (user : User) :
    Keeps SameTables (warnAmbiguous faults user) := by
  unfold warnAmbiguous
  refine .bind SameTables.trans (keeps_cacheAdd _ _ _ _ _) fun added => ?_
  cases added with
  | true => exact keeps_emit _ _
  | false => exact .pure SameTables.refl _

/-- The warning raises exactly when its cache call fails. -/
theorem outcome_warnAmbiguous (faults : CacheFaults) (user : User) (w : World) :
    outcome ((warnAmbiguous faults user).run w) =
      match faults .warnAdd with
      | some fault => .error fault.exc
      | none => .ok () := by
  unfold warnAmbiguous
  rw [EStateM.run_bind, run_cacheAdd]
  cases faults .warnAdd with
  | some fault => rfl
  | none =>
    simp only
    split
    · rfl
    · rfl

/-- A shut gate raises its message, unless the warning of the ambiguous branch fails. -/
theorem outcome_shutGate (faults : CacheFaults) (gate : Gate) (user : User) (w : World) :
    outcome ((shutGate faults gate user).run w) =
      match gate, faults .warnAdd with
      | .singleProfile, some fault => .error fault.exc
      | _, _ => .error (.authenticationFailed gate.message) := by
  unfold shutGate
  by_cases hgate : gate = .singleProfile
  · subst hgate
    have hwarn := outcome_warnAmbiguous faults user w
    simp only [if_true, EStateM.run_bind]
    cases hrun : (warnAmbiguous faults user).run w with
    | ok u w' =>
      rw [hrun, outcome_ok] at hwarn
      cases hfault : faults .warnAdd with
      | none => rfl
      | some fault => simp [hfault] at hwarn
    | error e w' =>
      rw [hrun, outcome_error] at hwarn
      cases hfault : faults .warnAdd with
      | none => simp [hfault] at hwarn
      | some fault => simpa [hfault] using hwarn
  · cases gate <;> simp_all

theorem keeps_shutGate (faults : CacheFaults) (gate : Gate) (user : User) :
    Keeps SameTables (shutGate faults gate user) := by
  unfold shutGate
  by_cases hgate : gate = .singleProfile
  · simp only [hgate, if_true]
    exact .bind SameTables.trans (keeps_warnAmbiguous faults user) fun _ =>
      .raise SameTables.refl _
  · simp only [hgate, if_false]
    exact .bind SameTables.trans (.pure SameTables.refl _) fun _ => .raise SameTables.refl _

/-- A rejection attempts its row and adds it when the insert works. -/
theorem finalState_rejectUser (faults : CacheFaults) (env : AuthEnv) (request : McpRequest)
    (gate : Gate) (user : User) (token : AccessToken) (w : World) :
    ∃ cache log, finalState ((rejectUser faults env request gate user token).run w) = { w with
      cache := cache
      log := log
      authRejectionAttempts :=
        w.authRejectionAttempts ++ [rejectionRow env request gate user token]
      authRejectionLog := w.authRejectionLog ++
        if env.createRejection (rejectionRow env request gate user token) = .ok () then
          [rejectionRow env request gate user token] else [] } := by
  have hshut : ∀ w', ∃ cache log, finalState ((shutGate faults gate user).run w') =
      { w' with cache := cache, log := log } := fun w' => keeps_shutGate faults gate user w'
  unfold rejectUser
  rw [EStateM.run_bind, run_auditRejection]
  cases env.createRejection (rejectionRow env request gate user token) with
  | ok u =>
    obtain ⟨cache, log, hfinal⟩ := hshut { w with
      authRejectionAttempts :=
        w.authRejectionAttempts ++ [rejectionRow env request gate user token]
      authRejectionLog := w.authRejectionLog ++ [rejectionRow env request gate user token] }
    exact ⟨cache, log, hfinal⟩
  | error e =>
    by_cases hdatabase : e.isDatabaseError = true
    · obtain ⟨cache, log, hfinal⟩ := hshut { w with
        authRejectionAttempts :=
          w.authRejectionAttempts ++ [rejectionRow env request gate user token]
        log := w.log ++
          [⟨.exception, auditFailedMessage (rejectionRow env request gate user token)⟩] }
      refine ⟨cache, log, ?_⟩
      simp only [hdatabase, if_true, hfinal, reduceCtorEq, if_false, List.append_nil]
    · refine ⟨w.cache, w.log, ?_⟩
      simp only [hdatabase, Bool.false_eq_true, if_false, finalState_error, reduceCtorEq,
        List.append_nil]

/-- `authenticate` after the body cap: the block check, then the bearer lookup. -/
theorem run_authenticate [UnicodeDatabase] (settings : Settings) (faults : CacheFaults)
    (env : AuthEnv) (request : McpRequest) (w : World) :
    (authenticate settings faults env request).run w =
      match enforceBodySizeCap request, env.readBody with
      | .error e, _ => .error e w
      | .ok _, .error e => .error e w
      | .ok _, .ok _ =>
        if request.hasAuthHeader then
          match (isIpBlocked faults (throttleIp request.remoteAddr) (lit "bad_token")
            settings.badTokenIpThreshold).run w with
          | .ok true w' => .ok none w'
          | .ok false w' => (authenticateBearer settings faults env request).run w'
          | .error e w' => .error e w'
        else (authenticateBearer settings faults env request).run w := by
  unfold authenticate
  rw [EStateM.run_bind]
  cases enforceBodySizeCap request with
  | error e => rfl
  | ok u =>
    rw [run_call_ok]
    simp only [EStateM.run_bind]
    cases env.readBody with
    | error e => rfl
    | ok u =>
      rw [run_call_ok]
      by_cases hheader : request.hasAuthHeader = true
      · simp only [hheader, if_true, EStateM.run_bind]
        cases (isIpBlocked faults (throttleIp request.remoteAddr) (lit "bad_token")
            settings.badTokenIpThreshold).run w with
        | error e w' => rfl
        | ok blocked w' => cases blocked <;> rfl
      · simp only [hheader]
        rfl

/-! ## Who passes -/

/-- A user who is bound to a profile holds a token of a recognised application. -/
theorem isMcpApplicationName_of_checkGates {settings : Settings} {env : AuthEnv} {user : User}
    {token : AccessToken} {profile : Profile}
    (h : checkGates settings env user token = .ok (.inr profile)) :
    isMcpApplicationName settings token.application.name = true := by
  by_contra hname
  unfold checkGates at h
  simp [hname, pure, Except.pure] at h

/-- A rejection never lets a request pass. -/
theorem outcome_rejectUser_ne (faults : CacheFaults) (env : AuthEnv) (request : McpRequest)
    (gate : Gate) (user : User) (token : AccessToken) (w : World) (a : Option Authenticated) :
    outcome ((rejectUser faults env request gate user token).run w) ≠ .ok a := by
  have hshut : ∀ w', outcome ((shutGate faults gate user).run w') ≠ .ok a := by
    intro w'
    rw [outcome_shutGate]
    split
    · simp
    · simp
  unfold rejectUser
  rw [EStateM.run_bind]
  cases (auditRejection env (rejectionRow env request gate user token)).run w with
  | ok u w' => exact hshut w'
  | error e w' => simp

/-- A resolved user who is let in passed the gates. -/
theorem passed_of_authenticateUser {settings : Settings} {faults : CacheFaults} {env : AuthEnv}
    {request : McpRequest} {user : User} {token : AccessToken} {w : World} {passed : Authenticated}
    (h : outcome ((authenticateUser settings faults env request user token).run w) =
      .ok (some passed)) :
    passed.user = user ∧ passed.token = token ∧
      checkGates settings env user token = .ok (.inr passed.mcpProfile) := by
  unfold authenticateUser at h
  rw [outcome_call_bind] at h
  obtain ⟨verdict, hgates, h⟩ := Raising.bind_eq_ok.mp h
  cases verdict with
  | inl gate => exact absurd h (outcome_rejectUser_ne _ _ _ _ _ _ _ _)
  | inr profile =>
    obtain rfl : Authenticated.mk user token profile = passed := by simpa using h
    exact ⟨rfl, rfl, hgates⟩

/-- A bearer that is let in belongs to a user who passed the gates. -/
theorem passed_of_authenticateBearer {settings : Settings} {faults : CacheFaults} {env : AuthEnv}
    {request : McpRequest} {w : World} {passed : Authenticated}
    (h : outcome ((authenticateBearer settings faults env request).run w) = .ok (some passed)) :
    env.verify = .ok (some (passed.user, passed.token)) ∧
      checkGates settings env passed.user passed.token = .ok (.inr passed.mcpProfile) := by
  unfold authenticateBearer at h
  rw [outcome_call_bind] at h
  obtain ⟨resolved, hverify, h⟩ := Raising.bind_eq_ok.mp h
  cases resolved with
  | none =>
    by_cases hheader : request.hasAuthHeader = true
    · simp only [hheader, if_true] at h
      rw [outcome_attemptThen] at h
      cases hcount : outcome ((recordAttempt faults (throttleIp request.remoteAddr)
          (lit "bad_token") settings.badTokenIpWindowSeconds
          settings.badTokenIpThreshold).run w) <;> simp [hcount, Except.map] at h
    · simp [hheader] at h
  | some pair =>
    obtain ⟨user, token⟩ := pair
    obtain ⟨rfl, rfl, hgates⟩ := passed_of_authenticateUser h
    exact ⟨hverify, hgates⟩

/-- A request that passes carries a token that was resolved and went through every gate. -/
theorem passed_of_authenticate [UnicodeDatabase] {settings : Settings} {faults : CacheFaults}
    {env : AuthEnv} {request : McpRequest} {w : World} {passed : Authenticated}
    (h : outcome ((authenticate settings faults env request).run w) = .ok (some passed)) :
    env.verify = .ok (some (passed.user, passed.token)) ∧
      checkGates settings env passed.user passed.token = .ok (.inr passed.mcpProfile) := by
  rw [run_authenticate] at h
  cases hbody : enforceBodySizeCap request with
  | error e => simp [hbody] at h
  | ok u =>
    cases hread : env.readBody with
    | error e => simp [hbody, hread] at h
    | ok u' =>
      simp only [hbody, hread] at h
      by_cases hheader : request.hasAuthHeader = true
      · simp only [hheader, if_true] at h
        split at h
        · simp at h
        · exact passed_of_authenticateBearer h
        · simp at h
      · simp only [hheader, Bool.false_eq_true, if_false] at h
        exact passed_of_authenticateBearer h

/-! ## Examples -/

/-- A request with a bearer token. -/
def bearerRequest : McpRequest where
  contentLength := some (lit "2")
  authorization := some (lit "Bearer token")
  remoteAddr := some (lit "203.0.113.7")

/-- The outside of a request with an unknown token. -/
def exampleAuthEnv : AuthEnv where
  readBody := .ok ()
  verify := .ok none
  mfaChecker _ := .ok true
  permissions _ := .ok []
  liveSession _ _ := .ok true
  now := 0
  createRejection _ := .ok ()

/-- A user who passes every gate with the permission of the one profile. -/
def cohortUser : User where
  pk := lit "7"
  username := lit "alice"
  isActive := true
  isStaff := true

/-- The outside of a request of `cohortUser`. -/
def cohortEnv : AuthEnv where
  readBody := .ok ()
  verify := .ok none
  mfaChecker _ := .ok true
  permissions _ := .ok [⟨lit "use_mcp_session", lit "mcp_sql", lit "mcpquerylog"⟩]
  liveSession _ _ := .ok true
  now := 0
  createRejection _ := .ok ()

end McpSql
