import McpSql.Auth
import McpSql.Foundations.GuardedRun

/-!
# Logout and outstanding codes

The revocation on logout (`signals.py`) against the steps of one user at the provider: a consent
issues an authorization code, an exchange turns a code into an access token, and a logout is
followed by its on-commit revocation.  The revocation deletes the access tokens and leaves the codes
alone, so what it achieves depends on the codes that are exchanged after it.
-/

namespace McpSql

open Python PyStr Effect GuardedRun

/-! ## The revocation -/

/-- What the on-commit callback of a logout reads: the request, the logout moment, and the
database's answers. -/
structure LogoutEnv where
  clientIp : Option PyStr
  loggedOutAt : ℕ
  deleteTokens : Except PyExc Unit
  createRejection : AuthRejectionRow → Except PyExc Unit

/-- The filter of the revocation: the canonical name, or the prefix of the registered ones. -/
def isRevokedName (settings : Settings) (name : PyStr) : Bool :=
  name = settings.applicationName || startsWith settings.applicationNamePrefix name

/-- The rows the revocation of a user deletes. -/
def isRevoked (settings : Settings) (user : User) (row : TokenRow) : Bool :=
  isRevokedName settings row.token.application.name && row.user.pk = user.pk

/-- `AccessToken.objects.filter(...).delete()`: the number of deleted rows. -/
def deleteTokens (settings : Settings) (env : LogoutEnv) (user : User) : Py ℕ := do
  call env.deleteTokens
  modifyGet fun w => (w.accessTokens.countP (isRevoked settings user),
    { w with accessTokens := w.accessTokens.filter fun row => !isRevoked settings user row })

/-- The audit row of a revocation. -/
def logoutRow (env : LogoutEnv) (user : User) (deleted : ℕ) : AuthRejectionRow where
  user := user.pk
  tokenPk := []
  applicationName := []
  reason := .sessionLogout
  error := lit "Revoked " ++ ofNat deleted ++ lit " MCP token(s) on logout"
  clientIp := env.clientIp
  startedAt := env.loggedOutAt

/-- `MCPAuthRejectionLog.objects.create` of a revocation. -/
def auditLogout (env : LogoutEnv) (user : User) (deleted : ℕ) : Py Unit :=
  catching PyExc.isDatabaseError
    (do
      let row := logoutRow env user deleted
      modify fun w => { w with authRejectionAttempts := w.authRejectionAttempts ++ [row] }
      call (env.createRejection row)
      modify fun w => { w with authRejectionLog := w.authRejectionLog ++ [row] })
    fun _ => emit .exception (lit "Revoked MCP tokens on logout for user " ++ user.pk ++
      lit " but failed to write the audit row")

/-- `_revoke_and_audit_on_logout`. -/
def revokeAndAuditOnLogout (settings : Settings) (env : LogoutEnv) (user : User) : Py Unit := do
  let deleted ← catching PyExc.isDatabaseError (some <$> deleteTokens settings env user) fun _ => do
    emit .exception (lit "Failed to revoke MCP tokens on logout for user " ++ user.pk)
    return none
  match deleted with
  | none | some 0 => return ()
  | some (n + 1) =>
    emit .info (lit "Revoked " ++ ofNat (n + 1) ++ lit " MCP token(s) on logout for user " ++
      user.pk)
    auditLogout env user (n + 1)

/-! ## The steps of a user -/

/-- An authorization code that is issued and not used yet. -/
structure Grant where
  application : Application
  scope : Option PyStr
  expires : ℕ
  consent : ℕ
  deriving DecidableEq, Repr

/-- The state of the provider for one user.  `consents` counts the consents given so far, and
`loggedOut` holds, for every logout whose revocation is still to run, the count at that logout.
Every consent numbered below `settled` was given before a logout whose revocation has run, and none
has been given since. -/
structure Provider where
  world : World
  grants : List Grant := []
  consents : ℕ := 0
  loggedOut : List ℕ := []
  settled : ℕ := 0

/-- The clock. -/
def World.now (w : World) : ℕ := w.cache.now

/-- How django-oauth-toolkit resolves a bearer: the unexpired row that carries it. -/
def lookupBearer (w : World) (bearer : PyStr) : Option TokenRow :=
  w.accessTokens.find? fun row => row.bearer = bearer && w.now < row.expires

/-- The outside of a request that presents a bearer. -/
def AuthEnv.presenting (env : AuthEnv) (w : World) (bearer : PyStr) : AuthEnv :=
  { env with verify := .ok ((lookupBearer w bearer).map fun row => (row.user, row.token)) }

/-- What the user, the clients and the clock do next. -/
inductive UserStep where
  | consent (application : Application) (scope : Option PyStr) (lifetime : ℕ)
  | exchange (i : ℕ) (bearer pk : PyStr) (lifetime : ℕ)
  | logout
  | revoke (i : ℕ) (env : LogoutEnv)
  | request (faults : CacheFaults) (env : AuthEnv) (request : McpRequest) (bearer : PyStr)
  | wait (seconds : ℕ)

/-- One step; an unexpired code is exchanged whatever has become of the session. -/
def userStep [UnicodeDatabase] (settings : Settings) (user : User) (s : Provider) :
    UserStep → Option Provider
  | .consent application scope lifetime => some { s with
      grants := s.grants ++ [⟨application, scope, s.world.now + lifetime, s.consents⟩]
      consents := s.consents + 1
      settled := 0 }
  | .exchange i bearer pk lifetime => do
    let grant ← s.grants[i]?
    if s.world.now < grant.expires ∧ ∀ row ∈ s.world.accessTokens, row.bearer ≠ bearer then
      some { s with
        grants := s.grants.eraseIdx i
        world := { s.world with accessTokens := s.world.accessTokens ++
          [⟨bearer, user, ⟨pk, grant.application, grant.scope⟩, s.world.now + lifetime,
            grant.consent⟩] } }
    else none
  | .logout => some { s with loggedOut := s.loggedOut ++ [s.consents] }
  | .revoke i env => do
    let given ← s.loggedOut[i]?
    if env.deleteTokens = .ok () then
      some { s with
        loggedOut := s.loggedOut.eraseIdx i
        world := finalState ((revokeAndAuditOnLogout settings env user).run s.world)
        settled := max s.settled given }
    else none
  | .request faults env request bearer => some { s with
      world := finalState ((authenticate settings faults (env.presenting s.world bearer)
        request).run s.world) }
  | .wait seconds => some { s with
      world := { s.world with cache := s.world.cache.tick seconds } }

/-- Every bearer whose consent was given before a logout that has been settled is refused. -/
def LogoutFinal [UnicodeDatabase] (settings : Settings) (user : User) (s : Provider) : Prop :=
  ∀ (faults : CacheFaults) (env : AuthEnv) (request : McpRequest) (bearer : PyStr) (row : TokenRow),
    lookupBearer s.world bearer = some row → row.user.pk = user.pk → row.consent < s.settled →
      ∀ passed, outcome ((authenticate settings faults (env.presenting s.world bearer) request).run
        s.world) ≠ .ok (some passed)

/-- The step does not redeem a code of a settled consent. -/
def leavesSettled (s : Provider) : UserStep → Bool
  | .exchange i _ _ _ => s.grants[i]?.all fun grant => s.settled ≤ grant.consent
  | _ => true

/-! ## What the steps do to the tokens -/

/-- The states hold the same access tokens. -/
def SameTokens (w w' : World) : Prop := w'.accessTokens = w.accessTokens

theorem SameTokens.refl (w : World) : SameTokens w w := rfl

theorem SameTokens.trans (w w' w'' : World) (h : SameTokens w w') (h' : SameTokens w' w'') :
    SameTokens w w'' := Eq.trans h' h

theorem sameTokens_of_sameTables {w w' : World} (h : SameTables w w') : SameTokens w w' := by
  obtain ⟨cache, log, rfl⟩ := h
  rfl

/-- The audit of a rejection leaves the tokens alone. -/
theorem keepsTokens_auditRejection (env : AuthEnv) (row : AuthRejectionRow) :
    Keeps SameTokens (auditRejection env row) := by
  intro w
  rw [run_auditRejection]
  split
  · rfl
  · split
    · rfl
    · rfl

/-- Authentication leaves the tokens alone. -/
theorem keepsTokens_authenticate [UnicodeDatabase] (settings : Settings) (faults : CacheFaults)
    (env : AuthEnv) (request : McpRequest) :
    Keeps SameTokens (authenticate settings faults env request) := by
  have htables : ∀ {α : Type} {x : Py α}, Keeps SameTables x → Keeps SameTokens x :=
    fun hx w => sameTokens_of_sameTables (hx w)
  have hreject : ∀ gate user token,
      Keeps SameTokens (rejectUser faults env request gate user token) := fun gate user token =>
    .bind SameTokens.trans (keepsTokens_auditRejection env _)
      fun _ => htables (keeps_shutGate faults gate user)
  have huser : ∀ user token,
      Keeps SameTokens (authenticateUser settings faults env request user token) := by
    intro user token
    unfold authenticateUser
    refine .bind SameTokens.trans (.call SameTokens.refl _) fun verdict => ?_
    cases verdict with
    | inl gate => exact hreject gate user token
    | inr profile => exact .pure SameTokens.refl _
  have hbearer : Keeps SameTokens (authenticateBearer settings faults env request) := by
    unfold authenticateBearer
    refine .bind SameTokens.trans (.call SameTokens.refl _) fun resolved => ?_
    cases resolved with
    | none =>
      by_cases hheader : request.hasAuthHeader = true
      · simp only [hheader, if_true]
        exact htables (keeps_attemptThen _ _ _ _ _ _)
      · simp only [hheader]
        exact .pure SameTokens.refl _
    | some pair => exact huser pair.1 pair.2
  intro w
  rw [run_authenticate]
  split
  · rfl
  · rfl
  · split
    · have hstate := finalState_isIpBlocked faults (throttleIp request.remoteAddr)
        (lit "bad_token") settings.badTokenIpThreshold w
      split
      · next w' hrun =>
          obtain rfl : w' = w := by simpa [hrun] using hstate
          rfl
      · next w' hrun =>
          obtain rfl : w' = w := by simpa [hrun] using hstate
          exact hbearer w'
      · next e w' hrun =>
          obtain rfl : w' = w := by simpa [hrun] using hstate
          rfl
    · exact hbearer w

/-- A recognised name is one the revocation matches. -/
theorem isRevokedName_of_recognised {settings : Settings} {name : PyStr}
    (h : isMcpApplicationName settings name = true) : isRevokedName settings name = true := by
  unfold isMcpApplicationName at h
  unfold isRevokedName
  by_cases hname : name = settings.applicationName
  · simp [hname]
  · by_cases hcloud : (cloudClients settings).any (·.clientId = name) = true
    · obtain ⟨client, hclient, hid⟩ := List.any_eq_true.mp hcloud
      obtain ⟨entry, -, rfl⟩ := List.mem_map.mp hclient
      obtain rfl := of_decide_eq_true hid
      simp [startsWith]
    · simp only [hname, hcloud, if_false] at h
      obtain ⟨hstart, -⟩ := Bool.and_eq_true_iff.mp h
      simp [hstart]

/-- A successful revocation deletes the matching tokens of the user and nothing else. -/
theorem accessTokens_revoke (settings : Settings) (env : LogoutEnv) (user : User) (w : World)
    (h : env.deleteTokens = .ok ()) :
    (finalState ((revokeAndAuditOnLogout settings env user).run w)).accessTokens =
      w.accessTokens.filter fun row => !isRevoked settings user row := by
  have haudit : ∀ deleted, Keeps SameTokens (auditLogout env user deleted) := by
    intro deleted
    unfold auditLogout
    refine .catching SameTokens.trans ?_ fun _ => fun w => rfl
    refine .bind SameTokens.trans (.modify fun w => rfl) fun _ => ?_
    exact .bind SameTokens.trans (.call SameTokens.refl _) fun _ => .modify fun w => rfl
  have hrest : ∀ deleted : Option ℕ, Keeps SameTokens (match deleted with
      | none | some 0 => (return () : Py Unit)
      | some (n + 1) => do
        emit .info (lit "Revoked " ++ ofNat (n + 1) ++ lit " MCP token(s) on logout for user " ++
          user.pk)
        auditLogout env user (n + 1)) := by
    intro deleted
    split
    · exact .pure SameTokens.refl _
    · exact .pure SameTokens.refl _
    · exact .bind SameTokens.trans (.modify fun w => rfl) fun _ => haudit _
  unfold revokeAndAuditOnLogout deleteTokens
  rw [EStateM.run_bind, run_catching, run_map, EStateM.run_bind, h, run_call_ok]
  exact hrest _ _

/-! ## The invariant -/

/-- The tokens left of settled consents are not recognised. -/
def Settled (settings : Settings) (user : User) (s : Provider) : Prop :=
  ∀ row ∈ s.world.accessTokens, row.user.pk = user.pk → row.consent < s.settled →
    isRevokedName settings row.token.application.name = false

section Invariant

variable [UnicodeDatabase] {settings : Settings} {user : User} {s t : Provider}

/-- A step that redeems no code of a settled consent keeps the invariant. -/
theorem Settled.step (hinv : Settled settings user s) {step : UserStep}
    (hleaves : leavesSettled s step = true) (hstep : userStep settings user s step = some t) :
    Settled settings user t := by
  cases step with
  | consent application scope lifetime =>
    obtain rfl := Option.some.inj hstep
    intro row _ _ hconsent
    exact absurd hconsent (Nat.not_lt_zero _)
  | exchange i bearer pk lifetime =>
    obtain ⟨grant, hgrant, hredeem⟩ := Option.bind_eq_some_iff.mp hstep
    have hlater : s.settled ≤ grant.consent := by simpa [leavesSettled, hgrant] using hleaves
    split_ifs at hredeem with hlive
    obtain rfl := Option.some.inj hredeem
    intro row hrow huser hconsent
    rcases List.mem_append.mp hrow with hold | hnew
    · exact hinv row hold huser hconsent
    · obtain rfl := List.mem_singleton.mp hnew
      exact absurd hconsent (by simpa using hlater)
  | logout =>
    obtain rfl := Option.some.inj hstep
    exact hinv
  | revoke i env =>
    obtain ⟨given, hgiven, hrevoke⟩ := Option.bind_eq_some_iff.mp hstep
    split_ifs at hrevoke with hdelete
    obtain rfl := Option.some.inj hrevoke
    intro row hrow huser _
    rw [accessTokens_revoke settings env user s.world hdelete] at hrow
    have hkept := (List.mem_filter.mp hrow).2
    simpa [isRevoked, huser] using hkept
  | request faults env request bearer =>
    obtain rfl := Option.some.inj hstep
    intro row hrow huser hconsent
    rw [keepsTokens_authenticate settings faults _ request s.world] at hrow
    exact hinv row hrow huser hconsent
  | wait seconds =>
    obtain rfl := Option.some.inj hstep
    exact hinv

/-- Where only unrecognised tokens of settled consents are left, none of them passes. -/
theorem Settled.logoutFinal (hinv : Settled settings user s) : LogoutFinal settings user s := by
  intro faults env request bearer row hlookup huser hconsent passed hpassed
  obtain ⟨hverify, hgates⟩ := passed_of_authenticate hpassed
  obtain ⟨-, htoken⟩ : row.user = passed.user ∧ row.token = passed.token := by
    simpa [AuthEnv.presenting, hlookup] using hverify
  have hrecognised := isMcpApplicationName_of_checkGates hgates
  have hunmatched := hinv row (List.mem_of_find?_eq_some hlookup) huser hconsent
  rw [← htoken] at hrecognised
  rw [isRevokedName_of_recognised hrecognised] at hunmatched
  exact absurd hunmatched (by simp)

end Invariant

/-- Before the first step no consent is settled. -/
def FreshProvider (s : Provider) : Prop := s.settled = 0

/-- In a run that redeems no code of a consent given before a settled logout, logout is final in
every state reached. -/
theorem logout_final_of_leavesSettled [UnicodeDatabase] (settings : Settings) (user : User)
    (s t : Provider) (hfresh : FreshProvider s)
    (hrun : Run (fun s step t => userStep settings user s step = some t)
      (fun s step => leavesSettled s step) s t) :
    LogoutFinal settings user t := by
  have hstart : Settled settings user s := by
    intro row _ _ hconsent
    rw [hfresh] at hconsent
    exact absurd hconsent (Nat.not_lt_zero _)
  have hinv := invariant hrun hstart fun s step t hinv hleaves hstep =>
    hinv.step hleaves hstep
  exact hinv.logoutFinal

/-- The curated application. -/
def curatedApplication : Application where
  name := lit "mcp-sql"
  clientId := lit "mcp-sql"
  clientSecret := []
  clientType := lit "public"
  authorizationGrantType := lit "authorization-code"
  skipAuthorization := true
  redirectUris := lit "http://127.0.0.1/callback"
  algorithm := []

/-- A database that answers the revocation. -/
def revokingEnv : LogoutEnv where
  clientIp := none
  loggedOutAt := 0
  deleteTokens := .ok ()
  createRejection _ := .ok ()

/-- A provider without codes and tokens. -/
def emptyProvider : Provider where
  world := emptyWorld

/-- Consent, exchange, a request, and a logout that is settled. -/
theorem logout_final_of_leavesSettled_sequence :
    letI := asciiDatabase
    ∃ t : Provider, LogoutFinal exampleSettings cohortUser t ∧ t.settled = 1 ∧
      t.world.accessTokens = [] := by
  let _ := asciiDatabase
  let steps : List UserStep := [.consent curatedApplication (some (lit "mcp:sql")) 60,
    .exchange 0 (lit "token") (lit "1") 21600,
    .request healthyCache cohortEnv bearerRequest (lit "token"), .logout, .wait 1,
    .revoke 0 revokingEnv]
  have hreplay : (replay (userStep exampleSettings cohortUser) leavesSettled steps
      emptyProvider).map (fun t => (t.settled, t.world.accessTokens)) = some (1, []) := by decide
  obtain ⟨t, hreplay, hend⟩ := Option.map_eq_some_iff.mp hreplay
  obtain ⟨hsettled, htokens⟩ := Prod.mk.inj hend
  exact ⟨t, logout_final_of_leavesSettled exampleSettings cohortUser emptyProvider t rfl
    (run_of_replay hreplay), hsettled, htokens⟩

/-- A code that is exchanged after the revocation gives a bearer that passes. -/
theorem logout_not_always_final :
    ¬∀ (_ : UnicodeDatabase) (settings : Settings) (user : User) (s t : Provider),
      settings.sessionModel = none → FreshProvider s →
        FreeRun (fun s step t => userStep settings user s step = some t) s t →
          LogoutFinal settings user t := by
  intro hfinal
  let _ := asciiDatabase
  let steps : List UserStep := [.consent curatedApplication (some (lit "mcp:sql")) 60, .logout,
    .revoke 0 revokingEnv, .exchange 0 (lit "token") (lit "1") 21600]
  have hreplay : (replay (userStep exampleSettings cohortUser) (fun _ _ => true) steps
      emptyProvider).map (fun t => (t.settled, lookupBearer t.world (lit "token"),
        (outcome ((authenticate exampleSettings healthyCache (cohortEnv.presenting t.world
          (lit "token")) bearerRequest).run t.world)).toOption.join.isSome)) =
      some (1, some ⟨lit "token", cohortUser, ⟨lit "1", curatedApplication,
        some (lit "mcp:sql")⟩, 21600, 0⟩, true) := by decide
  obtain ⟨t, hreplay, hend⟩ := Option.map_eq_some_iff.mp hreplay
  obtain ⟨hsettled, hrest⟩ := Prod.mk.inj hend
  obtain ⟨hlookup, hpasses⟩ := Prod.mk.inj hrest
  have hrun := (run_of_replay hreplay).free
  have hrefused := hfinal asciiDatabase exampleSettings cohortUser emptyProvider t rfl rfl hrun
    healthyCache cohortEnv bearerRequest (lit "token") _ hlookup rfl
    (by rw [hsettled]; exact Nat.zero_lt_one)
  cases hrequest : outcome ((authenticate exampleSettings healthyCache
      (cohortEnv.presenting t.world (lit "token")) bearerRequest).run t.world) with
  | error e => simp [hrequest, Except.toOption] at hpasses
  | ok answer =>
    cases answer with
    | none => simp [hrequest, Except.toOption] at hpasses
    | some passed => exact hrefused passed hrequest

end McpSql
