import McpSql.Auth
import McpSql.Foundations.Raising
import McpSql.Profiles.Permissions

/-!
# Issuance and runtime gates

The gate of `MCPAuthorizationView` (`views/oauth_authorize.py`) decides who is issued a token, and
the gates of `authenticate` (`auth.py`) decide again on every request.  Both are compared here with
the permission tables: they let the same users through, and bind the profile the user explicitly
holds.
-/

namespace McpSql

open Python PyStr Effect Raising

/-! ## The issuance gate -/

/-- `MCPAuthorizationView._enforce_gate`, for a user with the two flags. -/
def enforceGate (settings : Settings) (env : AuthEnv) (user : User) : Except PyExc Unit := do
  raiseIf ((user.isActive && user.isStaff) = false) (.permissionDenied
    (lit "MCP SQL access requires an active staff account. Contact an administrator."))
  let verified ← env.mfaChecker user
  raiseIf (verified = false) (.permissionDenied
    (lit "MCP SQL access requires a verified TOTP device. Set up two-factor authentication " ++
      lit "and retry."))
  let outcome := resolveProfile settings (← env.permissions user)
  raiseIf (outcome = .noPerm) (.permissionDenied
    (lit "MCP SQL access requires an MCP profile assignment. Ask an administrator to add you " ++
      lit "to an MCP profile group."))
  raiseIf (outcome = .ambiguousProfile) (.permissionDenied
    (lit "Your account is assigned to more than one MCP profile, which is not allowed. Ask an " ++
      lit "administrator to leave you in exactly one MCP profile group."))

/-! ## The gates over the tables -/

/-- The lookups about a user give an answer, and the permissions are read from the tables. -/
structure Answers (settings : Settings) (env : AuthEnv) (tables : AuthTables) (user : User) :
    Prop where
  mfa : ∃ verified, env.mfaChecker user = .ok verified
  permissions : env.permissions user = .ok (tables.held user.pk)
  session : ∃ live, hasLiveSession settings env user = .ok live

/-- The gates in the order they are checked. -/
def gatesInOrder : List Gate :=
  [.application, .scope, .activeStaff, .mfa, .profilePermission, .singleProfile, .session]

/-- A gate is shut for a user and a token. -/
def GateShut (settings : Settings) (env : AuthEnv) (tables : AuthTables) (user : User)
    (token : AccessToken) : Gate → Prop
  | .application => isMcpApplicationName settings token.application.name = false
  | .scope => settings.scope ∉ split (token.scope.getD [])
  | .activeStaff => (user.isActive && user.isStaff) = false
  | .mfa => env.mfaChecker user = .ok false
  | .profilePermission => ∀ p ∈ settings.profiles, ¬tables.Holds user.pk p
  | .singleProfile => ∃ p ∈ settings.profiles, ∃ p' ∈ settings.profiles, p ≠ p' ∧
      tables.Holds user.pk p ∧ tables.Holds user.pk p'
  | .session => hasLiveSession settings env user = .ok false

/-- The first gate that is shut. -/
def FirstShut (settings : Settings) (env : AuthEnv) (tables : AuthTables) (user : User)
    (token : AccessToken) (gate : Gate) : Prop :=
  ∃ before behind, gatesInOrder = before ++ gate :: behind ∧
    GateShut settings env tables user token gate ∧
    ∀ earlier ∈ before, ¬GateShut settings env tables user token earlier

section Gates

variable {settings : Settings} {env : AuthEnv} {tables : AuthTables} {user : User}
  {token : AccessToken}

/-- The gates when the lookups about the user give an answer. -/
theorem checkGates_eq {verified live : Bool} (hmfa : env.mfaChecker user = .ok verified)
    (hpermissions : env.permissions user = .ok (tables.held user.pk))
    (hlive : hasLiveSession settings env user = .ok live) :
    checkGates settings env user token = .ok
      (if isMcpApplicationName settings token.application.name = false then .inl .application
      else if settings.scope ∉ split (token.scope.getD []) then .inl .scope
      else if (user.isActive && user.isStaff) = false then .inl .activeStaff
      else if verified = false then .inl .mfa
      else
        match resolveProfile settings (tables.held user.pk) with
        | .noPerm => .inl .profilePermission
        | .ambiguousProfile => .inl .singleProfile
        | .bound profile => if live = false then .inl .session else .inr profile) := by
  unfold checkGates
  simp only [hmfa, hpermissions, hlive, ok_bind]
  cases isMcpApplicationName settings token.application.name with
  | false => rfl
  | true =>
    by_cases hscope : settings.scope ∉ split (token.scope.getD [])
    · simp only [hscope, not_false_eq_true, if_true]
      rfl
    · simp only [hscope]
      cases user.isActive && user.isStaff with
      | false => rfl
      | true =>
        cases verified with
        | false => rfl
        | true =>
          cases resolveProfile settings (tables.held user.pk) with
          | noPerm => rfl
          | ambiguousProfile => rfl
          | bound profile => cases live <;> rfl

/-- The MFA gate is shut when the checker says no. -/
theorem gateShut_mfa_iff {verified : Bool} (h : env.mfaChecker user = .ok verified) :
    GateShut settings env tables user token .mfa ↔ verified = false := by
  unfold GateShut
  rw [h, Except.ok.injEq]

/-- The session gate is shut when no session is live. -/
theorem gateShut_session_iff {live : Bool} (h : hasLiveSession settings env user = .ok live) :
    GateShut settings env tables user token .session ↔ live = false := by
  unfold GateShut
  rw [h, Except.ok.injEq]

/-- A user with one profile is stopped by neither of the gates on profiles. -/
theorem open_of_boundUniquely {profile : Profile}
    (h : BoundUniquely settings tables user.pk profile) :
    ¬GateShut settings env tables user token .profilePermission ∧
      ¬GateShut settings env tables user token .singleProfile := by
  constructor
  · exact fun hnone => hnone profile h.declared h.holds
  · rintro ⟨p, hp, p', hp', hne, hheld, hheld'⟩
    exact hne ((h.unique p hp hheld).trans (h.unique p' hp' hheld').symm)

/-- One more gate that is open. -/
theorem open_concat {before : List Gate}
    (h : ∀ earlier ∈ before, ¬GateShut settings env tables user token earlier) (gate : Gate)
    (hgate : ¬GateShut settings env tables user token gate) :
    ∀ earlier ∈ before ++ [gate], ¬GateShut settings env tables user token earlier := by
  intro earlier hearlier
  rcases List.mem_append.mp hearlier with hbefore | hlast
  · exact h earlier hbefore
  · rw [List.mem_singleton.mp hlast]
    exact hgate

/-- The gates find the first that is shut, or all of them open and the one profile the user holds. -/
theorem checkGates_spec (token : AccessToken) (hunique : settings.UniqueCodenames)
    (hanswers : Answers settings env tables user) :
    (∃ gate, checkGates settings env user token = .ok (.inl gate) ∧
        FirstShut settings env tables user token gate) ∨
      ∃ profile, checkGates settings env user token = .ok (.inr profile) ∧
        BoundUniquely settings tables user.pk profile ∧
        ∀ gate ∈ gatesInOrder, ¬GateShut settings env tables user token gate := by
  obtain ⟨verified, hmfa⟩ := hanswers.mfa
  obtain ⟨live, hlive⟩ := hanswers.session
  rw [checkGates_eq hmfa hanswers.permissions hlive]
  have hstart : ∀ earlier ∈ ([] : List Gate), ¬GateShut settings env tables user token earlier := by
    simp
  by_cases happlication : isMcpApplicationName settings token.application.name = false
  · rw [if_pos happlication]
    exact Or.inl ⟨_, rfl, [], _, rfl, happlication, hstart⟩
  rw [if_neg happlication]
  have hopen := open_concat hstart .application happlication
  by_cases hscope : settings.scope ∉ split (token.scope.getD [])
  · rw [if_pos hscope]
    exact Or.inl ⟨_, rfl, _, _, rfl, hscope, hopen⟩
  rw [if_neg hscope]
  have hopen := open_concat hopen .scope hscope
  by_cases hstaff : (user.isActive && user.isStaff) = false
  · rw [if_pos hstaff]
    exact Or.inl ⟨_, rfl, _, _, rfl, hstaff, hopen⟩
  rw [if_neg hstaff]
  have hopen := open_concat hopen .activeStaff hstaff
  by_cases hunverified : verified = false
  · rw [if_pos hunverified]
    exact Or.inl ⟨_, rfl, _, _, rfl, (gateShut_mfa_iff hmfa).mpr hunverified, hopen⟩
  rw [if_neg hunverified]
  have hopen := open_concat hopen .mfa fun h => hunverified ((gateShut_mfa_iff hmfa).mp h)
  rcases resolveProfile_spec hunique tables user.pk with
    ⟨hresolve, hnone⟩ | ⟨hresolve, htwo⟩ | ⟨profile, hresolve, hbound⟩
  · rw [hresolve]
    exact Or.inl ⟨.profilePermission, rfl, _, _, rfl, hnone, hopen⟩
  · have hpermission : ¬GateShut settings env tables user token .profilePermission := by
      intro hnone
      obtain ⟨p, hp, -, -, -, hheld, -⟩ := htwo
      exact hnone p hp hheld
    rw [hresolve]
    exact Or.inl ⟨.singleProfile, rfl, _, _, rfl, htwo, open_concat hopen .profilePermission hpermission⟩
  · obtain ⟨hpermission, hsingle⟩ := open_of_boundUniquely hbound
    have hopen := open_concat (open_concat hopen .profilePermission hpermission) .singleProfile
      hsingle
    have hdead : GateShut settings env tables user token .session ↔ live = false :=
      gateShut_session_iff hlive
    rw [hresolve]
    by_cases hsession : live = false
    · exact Or.inl ⟨_, congrArg Except.ok (if_pos hsession), _, [], rfl, hdead.mpr hsession, hopen⟩
    · exact Or.inr ⟨profile, congrArg Except.ok (if_neg hsession), hbound,
        open_concat hopen .session fun h => hsession (hdead.mp h)⟩

/-- The issuance gate passes exactly the users no user gate is shut for, and raises nothing but
`PermissionDenied`. -/
theorem enforceGate_spec (token : AccessToken) (hunique : settings.UniqueCodenames)
    (hanswers : Answers settings env tables user) :
    (enforceGate settings env user = .ok () ↔
        ∀ gate ∈ [Gate.activeStaff, .mfa, .profilePermission, .singleProfile],
          ¬GateShut settings env tables user token gate) ∧
      ∀ e, enforceGate settings env user = .error e → ∃ text, e = .permissionDenied text := by
  obtain ⟨verified, hmfa⟩ := hanswers.mfa
  have hverified : GateShut settings env tables user token .mfa ↔ verified = false :=
    gateShut_mfa_iff hmfa
  have hnone : GateShut settings env tables user token .profilePermission ↔
      resolveProfile settings (tables.held user.pk) = .noPerm :=
    (resolveProfile_eq_noPerm_iff hunique tables user.pk).symm
  have htwo : GateShut settings env tables user token .singleProfile ↔
      resolveProfile settings (tables.held user.pk) = .ambiguousProfile :=
    (resolveProfile_eq_ambiguous_iff hunique tables user.pk).symm
  have hbound : (resolveProfile settings (tables.held user.pk) ≠ .noPerm ∧
      resolveProfile settings (tables.held user.pk) ≠ .ambiguousProfile) ↔
      ∀ gate ∈ [Gate.profilePermission, .singleProfile],
        ¬GateShut settings env tables user token gate := by
    rw [List.forall_mem_cons, List.forall_mem_singleton, hnone, htwo]
  unfold enforceGate
  simp only [hmfa, hanswers.permissions, ok_bind, bind_eq_ok, bind_eq_error, raiseIf_eq_ok,
    raiseIf_eq_error]
  constructor
  · rw [List.forall_mem_cons, List.forall_mem_cons, ← hbound, hverified]
    constructor
    · rintro ⟨-, hstaff, -, hmfa, -, hnoPerm, hambiguous⟩
      exact ⟨hstaff, hmfa, hnoPerm, hambiguous⟩
    · rintro ⟨hstaff, hmfa, hnoPerm, hambiguous⟩
      exact ⟨(), hstaff, (), hmfa, (), hnoPerm, hambiguous⟩
  · rintro e (⟨-, rfl⟩ | ⟨-, -, ⟨-, rfl⟩ | ⟨-, -, ⟨-, rfl⟩ | ⟨-, -, -, rfl⟩⟩⟩)
    · exact ⟨_, rfl⟩
    · exact ⟨_, rfl⟩
    · exact ⟨_, rfl⟩
    · exact ⟨_, rfl⟩

/-- A user who is let in past an application, a scope and a session of his own is not stopped by a
gate of the user. -/
theorem not_enforced_of_firstShut {gate : Gate} (hunique : settings.UniqueCodenames)
    (hanswers : Answers settings env tables user)
    (hfirst : FirstShut settings env tables user token gate)
    (happlication : isMcpApplicationName settings token.application.name = true)
    (hscope : settings.scope ∈ split (token.scope.getD []))
    (hsession : hasLiveSession settings env user = .ok true) :
    enforceGate settings env user ≠ .ok () := by
  intro hpass
  obtain ⟨before, behind, -, hshut, -⟩ := hfirst
  have huser := (enforceGate_spec token hunique hanswers).1.mp hpass
  cases gate with
  | application => exact absurd (happlication.symm.trans hshut) (by decide)
  | scope => exact hshut hscope
  | session => exact absurd (Except.ok.inj (hsession.symm.trans hshut)) (by decide)
  | activeStaff => exact huser _ (by simp) hshut
  | mfa => exact huser _ (by simp) hshut
  | profilePermission => exact huser _ (by simp) hshut
  | singleProfile => exact huser _ (by simp) hshut

end Gates

/-! ## The counter of bad tokens -/

/-- The counters of bad tokens are the same. -/
def SameBadTokens (w w' : World) : Prop :=
  ∀ ip, w'.cache.entries (ipKey (lit "bad_token") ip) = w.cache.entries (ipKey (lit "bad_token") ip)

theorem SameBadTokens.refl (w : World) : SameBadTokens w w := fun _ => rfl

theorem SameBadTokens.trans (w w' w'' : World) (h : SameBadTokens w w')
    (h' : SameBadTokens w' w'') : SameBadTokens w w'' := fun ip => (h' ip).trans (h ip)

/-- The key of the ambiguity warning counts no IP. -/
theorem ipKey_ne_warnKey (ip pk : PyStr) :
    ipKey (lit "bad_token") ip ≠ lit "mcp_sql:ambiguous_warned:" ++ pk := by
  intro h
  have hninth : some (ofChar 'b') = some (ofChar 'a') := congrArg (fun s : PyStr => s[8]?) h
  exact absurd hninth (by decide)

theorem keepsBadTokens_rejectUser (faults : CacheFaults) (env : AuthEnv) (request : McpRequest)
    (gate : Gate) (user : User) (token : AccessToken) :
    Keeps SameBadTokens (rejectUser faults env request gate user token) := by
  have hemit : ∀ level message, Keeps SameBadTokens (emit level message) := fun level message =>
    .modify fun w ip => rfl
  have haudit : Keeps SameBadTokens
      (auditRejection env (rejectionRow env request gate user token)) := by
    unfold auditRejection createRejectionRow
    refine .catching SameBadTokens.trans ?_ fun e => hemit _ _
    refine .bind SameBadTokens.trans (.modify fun w ip => rfl) fun _ => ?_
    exact .bind SameBadTokens.trans (.call SameBadTokens.refl _) fun _ => .modify fun w ip => rfl
  have hwarn : Keeps SameBadTokens (warnAmbiguous faults user) := by
    unfold warnAmbiguous
    refine .bind SameBadTokens.trans ?_ fun added => ?_
    · intro w ip
      rw [run_cacheAdd]
      cases faults .warnAdd with
      | some fault => rfl
      | none => exact w.cache.entries_add_of_ne 1 _ (ipKey_ne_warnKey ip user.pk)
    · cases added with
      | true => exact hemit _ _
      | false => exact .pure SameBadTokens.refl _
  unfold rejectUser shutGate
  refine .bind SameBadTokens.trans haudit fun _ => ?_
  by_cases hgate : gate = .singleProfile
  · simp only [hgate, if_true]
    exact .bind SameBadTokens.trans hwarn fun _ => .raise SameBadTokens.refl _
  · simp only [hgate, if_false]
    exact .bind SameBadTokens.trans (.pure SameBadTokens.refl _) fun _ =>
      .raise SameBadTokens.refl _

/-! ## Issuance and runtime agree -/

section Agreement

variable [UnicodeDatabase]

/-- django-oauth-toolkit resolves the bearer of the request: the request gets past the body cap and
the block of its IP, and the lookup finds the user and the token. -/
structure Resolves (settings : Settings) (faults : CacheFaults) (env : AuthEnv)
    (request : McpRequest) (w : World) (user : User) (token : AccessToken) : Prop where
  body : enforceBodySizeCap request = .ok ()
  read : env.readBody = .ok ()
  unblocked : request.hasAuthHeader = true →
    (isIpBlocked faults (throttleIp request.remoteAddr) (lit "bad_token")
      settings.badTokenIpThreshold).run w = .ok false w
  verified : env.verify = .ok (some (user, token))

/-- The request of a resolved user goes to the gates. -/
theorem run_authenticate_of_resolves {settings : Settings} {faults : CacheFaults} {env : AuthEnv}
    {request : McpRequest} {w : World} {user : User} {token : AccessToken}
    (h : Resolves settings faults env request w user token) :
    (authenticate settings faults env request).run w =
      (authenticateUser settings faults env request user token).run w := by
  have hbearer : (authenticateBearer settings faults env request).run w =
      (authenticateUser settings faults env request user token).run w := by
    unfold authenticateBearer
    rw [EStateM.run_bind, h.verified, run_call_ok]
  rw [run_authenticate, h.body, h.read]
  by_cases hheader : request.hasAuthHeader = true
  · simp only [hheader, if_true, h.unblocked hheader, hbearer]
  · simp only [hheader, Bool.false_eq_true, if_false, hbearer]

/-- A run of `authenticate` for a resolved user agrees with the issuance gate and the permission
tables. -/
structure GatesAgree (settings : Settings) (env : AuthEnv) (tables : AuthTables)
    (request : McpRequest) (w : World) (user : User) (token : AccessToken)
    (run : EStateM.Result PyExc World (Option Authenticated)) : Prop where
  issued : isMcpApplicationName settings token.application.name = true →
    settings.scope ∈ split (token.scope.getD []) → hasLiveSession settings env user = .ok true →
      ((∃ passed, outcome run = .ok (some passed)) ↔ enforceGate settings env user = .ok ())
  denied : ∀ e, enforceGate settings env user = .error e → ∃ text, e = .permissionDenied text
  bound : ∀ passed, outcome run = .ok (some passed) → passed.user = user ∧ passed.token = token ∧
    BoundUniquely settings tables user.pk passed.mcpProfile
  rejected : (¬∃ passed, outcome run = .ok (some passed)) →
    (∃ e, outcome run = .error e) ∧ ∃ gate, FirstShut settings env tables user token gate ∧
      (finalState run).authRejectionAttempts =
        w.authRejectionAttempts ++ [rejectionRow env request gate user token]
  counter : SameBadTokens w (finalState run)

section Outcomes

variable {settings : Settings} {faults : CacheFaults} {env : AuthEnv} {tables : AuthTables}
  {request : McpRequest} {w : World} {user : User} {token : AccessToken}

omit [UnicodeDatabase] in
/-- A user a gate is shut for is rejected, as the tables ask for. -/
theorem gatesAgree_rejectUser {gate : Gate} (hunique : settings.UniqueCodenames)
    (hanswers : Answers settings env tables user)
    (hfirst : FirstShut settings env tables user token gate) :
    GatesAgree settings env tables request w user token
      ((rejectUser faults env request gate user token).run w) := by
  have hnever : ¬∃ passed, outcome ((rejectUser faults env request gate user token).run w) =
      .ok (some passed) := by
    rintro ⟨passed, hpassed⟩
    exact outcome_rejectUser_ne faults env request gate user token w (some passed) hpassed
  refine ⟨?_, (enforceGate_spec token hunique hanswers).2, ?_, ?_,
    keepsBadTokens_rejectUser faults env request gate user token w⟩
  · intro happlication hscope hsession
    exact iff_of_false hnever
      (not_enforced_of_firstShut hunique hanswers hfirst happlication hscope hsession)
  · intro passed hpassed
    exact absurd ⟨passed, hpassed⟩ hnever
  · intro _
    refine ⟨?_, gate, hfirst, ?_⟩
    · cases hrun : outcome ((rejectUser faults env request gate user token).run w) with
      | ok a => exact absurd hrun (outcome_rejectUser_ne faults env request gate user token w a)
      | error e => exact ⟨e, rfl⟩
    · obtain ⟨cache, log, hfinal⟩ := finalState_rejectUser faults env request gate user token w
      rw [hfinal]

omit [UnicodeDatabase] in
/-- A user all gates are open for passes, with the profile the tables bind. -/
theorem gatesAgree_passed {profile : Profile} (hunique : settings.UniqueCodenames)
    (hanswers : Answers settings env tables user)
    (hbound : BoundUniquely settings tables user.pk profile)
    (hopen : ∀ gate ∈ gatesInOrder, ¬GateShut settings env tables user token gate) :
    GatesAgree settings env tables request w user token (.ok (some ⟨user, token, profile⟩) w) := by
  obtain ⟨hissue, hdenied⟩ := enforceGate_spec token hunique hanswers
  have hpassed : ∃ passed, outcome (.ok (some ⟨user, token, profile⟩) w :
      EStateM.Result PyExc World (Option Authenticated)) = .ok (some passed) := ⟨_, rfl⟩
  refine ⟨?_, hdenied, ?_, fun hnot => absurd hpassed hnot, SameBadTokens.refl w⟩
  · intro _ _ _
    refine iff_of_true hpassed (hissue.mpr fun gate hgate => hopen gate ?_)
    revert gate
    decide
  · intro passed hpassed
    obtain rfl : Authenticated.mk user token profile = passed := by simpa using hpassed
    exact ⟨rfl, rfl, hbound⟩

end Outcomes

/-- Issuance and runtime agree for every resolved user, whatever the tables hold. -/
theorem issuance_runtime_agree (settings : Settings) (faults : CacheFaults) (env : AuthEnv)
    (tables : AuthTables) (request : McpRequest) (w : World) (user : User) (token : AccessToken)
    (hunique : settings.UniqueCodenames) (hanswers : Answers settings env tables user)
    (hresolves : Resolves settings faults env request w user token) :
    GatesAgree settings env tables request w user token
      ((authenticate settings faults env request).run w) := by
  rw [run_authenticate_of_resolves hresolves]
  unfold authenticateUser
  rw [EStateM.run_bind]
  rcases checkGates_spec token hunique hanswers with
    ⟨gate, hgates, hfirst⟩ | ⟨profile, hgates, hbound, hopen⟩
  · rw [hgates, run_call_ok]
    exact gatesAgree_rejectUser hunique hanswers hfirst
  · rw [hgates, run_call_ok]
    exact gatesAgree_passed hunique hanswers hbound hopen

end Agreement

/-! ## A member of the cohort -/

/-- The tables after provisioning, with `cohortUser` in the group of the one profile. -/
def cohortTables : AuthTables where
  permissions := [profilePermission (lit "use_mcp_session")]
  groups := [lit "mcp_sql_users"]
  groupPermissions group :=
    if group = lit "mcp_sql_users" then [profilePermission (lit "use_mcp_session")] else []
  userGroups pk := if pk = lit "7" then [lit "mcp_sql_users"] else []

/-- A token of the curated application. -/
def cohortToken : AccessToken where
  pk := lit "1"
  application := ⟨lit "mcp-sql", lit "curated", [], lit "public", lit "authorization-code", true,
    lit "http://127.0.0.1/callback", []⟩
  scope := some (lit "mcp:sql")

/-- The outside of a request with that token. -/
def cohortTokenEnv : AuthEnv :=
  { cohortEnv with
    verify := .ok (some (cohortUser, cohortToken))
    permissions := fun user => .ok (cohortTables.held user.pk) }

/-- The member of the group is issued a token, and the token works. -/
theorem issuance_runtime_agree_cohort :
    letI := asciiDatabase
    let run := (authenticate exampleSettings healthyCache cohortTokenEnv bearerRequest).run emptyWorld
    enforceGate exampleSettings cohortTokenEnv cohortUser = .ok () ∧
      (∃ passed, outcome run = .ok (some passed)) ∧
      GatesAgree exampleSettings cohortTokenEnv cohortTables bearerRequest emptyWorld cohortUser
        cohortToken run := by
  let _ := asciiDatabase
  have hunique : exampleSettings.UniqueCodenames := by
    intro p hp p' hp' _
    rw [List.mem_singleton.mp hp, List.mem_singleton.mp hp']
  have hanswers : Answers exampleSettings cohortTokenEnv cohortTables cohortUser :=
    ⟨⟨true, rfl⟩, rfl, ⟨true, rfl⟩⟩
  have hresolves : Resolves exampleSettings healthyCache cohortTokenEnv bearerRequest emptyWorld
      cohortUser cohortToken := ⟨rfl, rfl, fun _ => rfl, rfl⟩
  exact ⟨rfl, ⟨_, rfl⟩, issuance_runtime_agree exampleSettings healthyCache cohortTokenEnv
    cohortTables bearerRequest emptyWorld cohortUser cohortToken hunique hanswers hresolves⟩

end McpSql
