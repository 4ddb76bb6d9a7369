import McpSql.Auth
import McpSql.Registration.Register

/-!
# Cache outages

What becomes of a request when cache calls fail.  The throttle catches the builtin
`ConnectionError` and `ValueError`; the cache backend's own exception class escapes from it, and the
`add` of the ambiguous-profile branch is not guarded at all.
-/

namespace McpSql

open Python PyStr Effect FixedWindow

/-- Two runs answer alike: the same value or exception, and the same tables. -/
def SameAnswer {α : Type} (r r' : EStateM.Result PyExc World α) : Prop :=
  outcome r = outcome r' ∧ SameTables (finalState r) (finalState r')

/-- The state with an empty cache. -/
def World.withoutCounters (w : World) : World := { w with cache := .empty w.cache.now }

theorem sameTables_withoutCounters (w : World) : SameTables w w.withoutCounters :=
  ⟨.empty w.cache.now, w.log, rfl⟩

theorem sameAnswer_ok {α : Type} (a : α) {w w' : World} (h : SameTables w w') :
    SameAnswer (.ok a w) (.ok a w') := ⟨rfl, h⟩

theorem sameAnswer_error {α : Type} (e : PyExc) {w w' : World} (h : SameTables w w') :
    SameAnswer (.error e w : EStateM.Result PyExc World α) (.error e w') := ⟨rfl, h⟩

/-- Runs from states with the same tables that touch no table answer alike when their outcomes
agree. -/
theorem sameAnswer_of_keeps {α : Type} {x y : Py α} {w w' : World}
    (h : outcome (x.run w) = outcome (y.run w')) (hw : SameTables w w') (hx : Keeps SameTables x)
    (hy : Keeps SameTables y) : SameAnswer (x.run w) (y.run w') := by
  have hback : SameTables (finalState (x.run w)) w := (hx w).symm
  exact ⟨h, hback.trans _ _ _ (hw.trans _ _ _ (hy w'))⟩

/-! ## Counting an attempt -/

section Attempt

variable (faults : CacheFaults) (ip scope : PyStr) (window threshold : ℕ)

/-- A healthy cache fails nowhere. -/
theorem countHandled_healthyCache : CountHandled healthyCache :=
  ⟨handled_of_none rfl, fun _ => handled_of_none rfl⟩

/-- An attempt is counted without consequence exactly when its failures are caught. -/
theorem sameAnswer_attemptThen_iff {α : Type} (a : α) {w w' : World} (hw : SameTables w w') :
    SameAnswer
        ((do
          let _ ← recordAttempt faults ip scope window threshold
          return a : Py α).run w)
        ((do
          let _ ← recordAttempt healthyCache ip scope window threshold
          return a : Py α).run w') ↔ CountHandled faults := by
  obtain ⟨count', hhealthy⟩ :=
    recordAttempt_returns ip scope window threshold w' countHandled_healthyCache
  constructor
  · rintro ⟨hsame, -⟩
    by_contra hescapes
    obtain ⟨e, hraises⟩ := recordAttempt_raises ip scope window threshold w hescapes
    rw [outcome_attemptThen, outcome_attemptThen, hraises, hhealthy] at hsame
    exact absurd hsame (by simp [Except.map])
  · intro hhandled
    obtain ⟨count, hreturns⟩ := recordAttempt_returns ip scope window threshold w hhandled
    refine sameAnswer_of_keeps ?_ hw (keeps_attemptThen _ _ _ _ _ a) (keeps_attemptThen _ _ _ _ _ a)
    rw [outcome_attemptThen, outcome_attemptThen, hreturns, hhealthy]
    rfl

end Attempt

/-! ## Rejecting a user -/

section Reject

variable (settings : Settings) (faults : CacheFaults) (env : AuthEnv) (request : McpRequest)
  (user : User) (token : AccessToken)

/-- The audit row of the ambiguous branch is written, or its failure is a `DatabaseError`. -/
def AuditAnswers : Prop :=
  ∀ e, env.createRejection (rejectionRow env request .singleProfile user token) = .error e →
    e.isDatabaseError = true

/-- A shut gate answers alike exactly when the warning of the ambiguous branch does not fail. -/
theorem sameAnswer_shutGate_iff (gate : Gate) {w w' : World} (hw : SameTables w w') :
    SameAnswer ((shutGate faults gate user).run w) ((shutGate healthyCache gate user).run w') ↔
      (gate = .singleProfile → faults .warnAdd = none) := by
  have hsame : SameTables (finalState ((shutGate faults gate user).run w))
      (finalState ((shutGate healthyCache gate user).run w')) :=
    (keeps_shutGate faults gate user w).symm.trans _ _ _
      (hw.trans _ _ _ (keeps_shutGate healthyCache gate user w'))
  unfold SameAnswer
  rw [outcome_shutGate, outcome_shutGate]
  cases gate with
  | singleProfile =>
    cases hfault : faults .warnAdd with
    | none => simpa [healthyCache] using hsame
    | some fault => cases fault <;> simp [healthyCache, CacheFault.exc]
  | _ => simpa using hsame

/-- A rejection is the same exactly when the warning of the ambiguous branch, if it is reached,
does not fail. -/
theorem sameAnswer_rejectUser_iff (gate : Gate) {w w' : World} (hw : SameTables w w') :
    SameAnswer ((rejectUser faults env request gate user token).run w)
        ((rejectUser healthyCache env request gate user token).run w') ↔
      (gate = .singleProfile → AuditAnswers env request user token → faults .warnAdd = none) := by
  obtain ⟨cache, log, rfl⟩ := hw
  unfold rejectUser
  rw [EStateM.run_bind, EStateM.run_bind, run_auditRejection, run_auditRejection]
  cases hcreate : env.createRejection (rejectionRow env request gate user token) with
  | ok u =>
    have haudit : gate = .singleProfile → AuditAnswers env request user token := by
      rintro rfl e he
      simp [hcreate] at he
    rw [sameAnswer_shutGate_iff faults user gate ⟨cache, log, rfl⟩]
    exact ⟨fun h hgate _ => h hgate, fun h hgate => h hgate (haudit hgate)⟩
  | error e =>
    by_cases hdatabase : e.isDatabaseError = true
    · have haudit : gate = .singleProfile → AuditAnswers env request user token := by
        rintro rfl e' he'
        obtain rfl : e = e' := by simpa [hcreate] using he'
        exact hdatabase
      simp only [hdatabase, if_true]
      rw [sameAnswer_shutGate_iff faults user gate ⟨cache, log ++ _, rfl⟩]
      exact ⟨fun h hgate _ => h hgate, fun h hgate => h hgate (haudit hgate)⟩
    · have hescapes : ∀ hgate : gate = .singleProfile, ¬AuditAnswers env request user token := by
        rintro rfl haudit
        exact hdatabase (haudit e hcreate)
      simp only [hdatabase]
      constructor
      · intro _ hgate haudit
        exact absurd haudit (hescapes hgate)
      · intro _
        exact ⟨rfl, cache, log, rfl⟩

end Reject

/-! ## Authentication -/

section Authenticate

variable (settings : Settings) (faults : CacheFaults) (env : AuthEnv) (request : McpRequest)

/-- The failures below the block check that are reached: those of a counted attempt are caught, and
the warning of the ambiguous branch does not fail. -/
structure BearerHandled : Prop where
  count : env.verify = .ok none → request.hasAuthHeader = true → CountHandled faults
  warn : ∀ user token, env.verify = .ok (some (user, token)) →
    checkGates settings env user token = .ok (.inl .singleProfile) →
      AuditAnswers env request user token → faults .warnAdd = none

/-- A resolved user is answered alike exactly when the warning of the ambiguous branch does not fail
once it is reached. -/
theorem sameAnswer_authenticateUser_iff (user : User) (token : AccessToken) {w w' : World}
    (hw : SameTables w w') :
    SameAnswer ((authenticateUser settings faults env request user token).run w)
        ((authenticateUser settings healthyCache env request user token).run w') ↔
      (checkGates settings env user token = .ok (.inl .singleProfile) →
        AuditAnswers env request user token → faults .warnAdd = none) := by
  unfold authenticateUser
  simp only [EStateM.run_bind]
  cases hgates : checkGates settings env user token with
  | error e => exact iff_of_true ⟨rfl, hw⟩ (by simp)
  | ok verdict =>
    simp only [run_call_ok]
    cases verdict with
    | inl gate =>
      simp only
      rw [sameAnswer_rejectUser_iff faults env request user token gate hw]
      simp
    | inr profile => exact iff_of_true ⟨rfl, hw⟩ (by simp)

/-- The bearer lookup answers alike exactly when its failures are caught. -/
theorem sameAnswer_authenticateBearer_iff {w w' : World} (hw : SameTables w w') :
    SameAnswer ((authenticateBearer settings faults env request).run w)
        ((authenticateBearer settings healthyCache env request).run w') ↔
      BearerHandled settings faults env request := by
  unfold authenticateBearer
  simp only [EStateM.run_bind]
  cases hverify : env.verify with
  | error e => exact iff_of_true ⟨rfl, hw⟩ ⟨by simp [hverify], by simp [hverify]⟩
  | ok resolved =>
    simp only [run_call_ok]
    cases resolved with
    | none =>
      by_cases hheader : request.hasAuthHeader = true
      · have hattempt := sameAnswer_attemptThen_iff faults (throttleIp request.remoteAddr)
          (lit "bad_token") settings.badTokenIpWindowSeconds settings.badTokenIpThreshold
          (none : Option Authenticated) hw
        simp only [hheader, if_true]
        rw [hattempt]
        constructor
        · intro hcount
          exact ⟨fun _ _ => hcount, by simp [hverify]⟩
        · rintro ⟨hcount, -⟩
          exact hcount hverify hheader
      · simp only [hheader]
        exact iff_of_true ⟨rfl, hw⟩ ⟨fun _ h => absurd h hheader, by simp [hverify]⟩
    | some pair =>
      obtain ⟨user, token⟩ := pair
      rw [sameAnswer_authenticateUser_iff settings faults env request user token hw]
      constructor
      · intro hwarn
        refine ⟨by simp [hverify], ?_⟩
        intro user' token' hresolved
        obtain ⟨rfl, rfl⟩ : user = user' ∧ token = token' := by simpa [hverify] using hresolved
        exact hwarn
      · rintro ⟨-, hwarn⟩
        exact hwarn user token hverify

/-- The failures of a request that are reached are caught. -/
def AuthHandled [UnicodeDatabase] : Prop :=
  enforceBodySizeCap request = .ok () → env.readBody = .ok () →
    (request.hasAuthHeader = true → Handled faults .blockGet) ∧
      BearerHandled settings faults env request

end Authenticate

/-! ## Registration -/

section Register

variable (settings : Settings) (faults : CacheFaults) (env : RegisterEnv) (ip : PyStr)

/-- Creating a row and counting it answers alike exactly when the failures of the count are
caught. -/
theorem sameAnswer_createAndCount_iff (row : Application) (response : JsonResponse) {w w' : World}
    (hw : SameTables w w') :
    SameAnswer ((createAndCount settings faults env ip row response).run w)
        ((createAndCount settings healthyCache env ip row response).run w') ↔
      (env.create row = .ok () → CountHandled faults) := by
  obtain ⟨cache, log, rfl⟩ := hw
  unfold createAndCount createApplication
  simp only [EStateM.run_bind]
  cases hcreate : env.create row with
  | error e => simpa using sameAnswer_error (α := JsonResponse) e ⟨cache, log, rfl⟩
  | ok u =>
    have htables : SameTables { w with applications := w.applications ++ [row] }
        { w with applications := w.applications ++ [row], cache := cache, log := log } :=
      ⟨cache, log, rfl⟩
    have hattempt := sameAnswer_attemptThen_iff faults ip (lit "register")
      settings.badTokenIpWindowSeconds settings.badTokenIpThreshold response htables
    simp only [EStateM.run_bind] at hattempt
    simpa using hattempt

/-- The failures of a registration that are reached are caught. -/
def RegisterHandled [UnicodeDatabase] (request : RegisterRequest) : Prop :=
  ∀ registration, validateRegistration request.body = .ok (.inr registration) →
    Handled faults .blockGet ∧
      (env.create (applicationRow (newClientId settings env) registration) = .ok () →
        CountHandled faults)

end Register

/-! ## The block check -/

/-- The block check of an IP below the threshold passes, unless it raises a failure that is not
caught. -/
theorem run_isIpBlocked_of_below {faults : CacheFaults} {ip scope : PyStr} {threshold : ℕ}
    {w : World} (h : faults .blockGet = none → w.cache.count (ipKey scope ip) < threshold) :
    (Handled faults .blockGet ∧ (isIpBlocked faults ip scope threshold).run w = .ok false w) ∨
      (¬Handled faults .blockGet ∧
        (isIpBlocked faults ip scope threshold).run w = .error CacheFault.backend.exc w) := by
  rw [run_isIpBlocked]
  cases hfault : faults .blockGet with
  | none =>
    have hbelow := h hfault
    refine Or.inl ⟨handled_of_none hfault, ?_⟩
    simp [hbelow]
  | some fault =>
    rw [handled_iff_of_some hfault]
    cases hcaught : isOutage fault.exc with
    | true => exact Or.inl ⟨rfl, by simp [hcaught]⟩
    | false =>
      obtain rfl := eq_backend_of_not_isOutage hcaught
      exact Or.inr ⟨by simp, by simp [hcaught]⟩

/-- With a healthy cache and no counters the block check passes. -/
theorem run_isIpBlocked_healthy {ip scope : PyStr} {threshold : ℕ} (h : 0 < threshold)
    (w : World) : (isIpBlocked healthyCache ip scope threshold).run w.withoutCounters =
      .ok false w.withoutCounters := by
  have hcount : w.withoutCounters.cache.count (ipKey scope ip) = 0 := rfl
  rw [run_isIpBlocked]
  simp only [healthyCache, hcount]
  rw [decide_eq_false (by omega)]

section FailsOpen

variable [UnicodeDatabase] (settings : Settings) (faults : CacheFaults)

/-- An outage changes nothing for an MCP request exactly when its failures are caught. -/
theorem sameAnswer_authenticate_iff (env : AuthEnv) (request : McpRequest) (w : World)
    (hthreshold : 0 < settings.badTokenIpThreshold)
    (hbelow : faults .blockGet = none → w.cache.count
      (ipKey (lit "bad_token") (throttleIp request.remoteAddr)) < settings.badTokenIpThreshold)
    (hforeign : outcome ((authenticate settings healthyCache env request).run
      w.withoutCounters) ≠ .error CacheFault.backend.exc) :
    SameAnswer ((authenticate settings faults env request).run w)
        ((authenticate settings healthyCache env request).run w.withoutCounters) ↔
      AuthHandled settings faults env request := by
  have hw := sameTables_withoutCounters w
  unfold AuthHandled
  rw [run_authenticate] at hforeign ⊢
  rw [run_authenticate]
  cases hbody : enforceBodySizeCap request with
  | error e => simpa using sameAnswer_error e hw
  | ok u =>
    cases hread : env.readBody with
    | error e => simpa using sameAnswer_error e hw
    | ok u' =>
      simp only [hbody, hread] at hforeign
      by_cases hheader : request.hasAuthHeader = true
      · simp only [hheader, if_true, run_isIpBlocked_healthy hthreshold] at hforeign ⊢
        rcases run_isIpBlocked_of_below hbelow with ⟨hhandled, hrun⟩ | ⟨hescapes, hrun⟩
        · rw [hrun]
          simp only
          rw [sameAnswer_authenticateBearer_iff settings faults env request hw]
          simp [hhandled]
        · rw [hrun]
          constructor
          · rintro ⟨hsame, -⟩
            exact absurd hsame.symm hforeign
          · intro hall
            exact absurd ((hall trivial trivial).1 trivial) hescapes
      · simp only [hheader, Bool.false_eq_true, if_false]
        rw [sameAnswer_authenticateBearer_iff settings faults env request hw]
        simp

/-- An outage changes nothing for a registration exactly when its failures are caught. -/
theorem sameAnswer_registerClient_iff (env : RegisterEnv) (request : RegisterRequest) (w : World)
    (hthreshold : 0 < settings.badTokenIpThreshold)
    (hbelow : faults .blockGet = none → w.cache.count
      (ipKey (lit "register") (throttleIp request.remoteAddr)) < settings.badTokenIpThreshold)
    (hforeign : outcome ((registerClient settings healthyCache env request).run
      w.withoutCounters) ≠ .error CacheFault.backend.exc) :
    SameAnswer ((registerClient settings faults env request).run w)
        ((registerClient settings healthyCache env request).run w.withoutCounters) ↔
      RegisterHandled settings faults env request := by
  have hw := sameTables_withoutCounters w
  unfold RegisterHandled
  unfold registerClient at hforeign ⊢
  cases hvalid : validateRegistration request.body with
  | error e => simpa using sameAnswer_error e hw
  | ok result =>
    cases result with
    | inl response => simpa using sameAnswer_ok response hw
    | inr registration =>
      simp only [hvalid] at hforeign
      simp only
      rw [run_storeRegistration, run_isIpBlocked_healthy hthreshold] at hforeign
      rw [run_storeRegistration, run_storeRegistration, run_isIpBlocked_healthy hthreshold]
      rcases run_isIpBlocked_of_below hbelow with ⟨hhandled, hrun⟩ | ⟨hescapes, hrun⟩
      · rw [hrun]
        simp only
        rw [sameAnswer_createAndCount_iff settings faults env _ _ _ hw]
        simp [hhandled]
      · rw [hrun]
        constructor
        · rintro ⟨hsame, -⟩
          exact absurd hsame.symm hforeign
        · intro hall
          exact absurd (hall registration rfl).1 hescapes

/-- A cache outage changes nothing, neither for an MCP request nor for a registration, exactly when
every failure of the throttle that is reached is the builtin `ConnectionError` or a `ValueError`,
and the `add` of the ambiguous-profile branch, if it is reached, does not fail. -/
theorem outage_fails_open_iff (authEnv : AuthEnv) (mcpRequest : McpRequest)
    (registerEnv : RegisterEnv) (registerRequest : RegisterRequest) (w : World)
    (hthreshold : 0 < settings.badTokenIpThreshold)
    (hbelow : faults .blockGet = none → ∀ scope remoteAddr, w.cache.count
      (ipKey scope (throttleIp remoteAddr)) < settings.badTokenIpThreshold)
    (hauth : outcome ((authenticate settings healthyCache authEnv mcpRequest).run
      w.withoutCounters) ≠ .error CacheFault.backend.exc)
    (hregister : outcome ((registerClient settings healthyCache registerEnv registerRequest).run
      w.withoutCounters) ≠ .error CacheFault.backend.exc) :
    (SameAnswer ((authenticate settings faults authEnv mcpRequest).run w)
          ((authenticate settings healthyCache authEnv mcpRequest).run w.withoutCounters) ↔
        AuthHandled settings faults authEnv mcpRequest) ∧
      (SameAnswer ((registerClient settings faults registerEnv registerRequest).run w)
          ((registerClient settings healthyCache registerEnv registerRequest).run
            w.withoutCounters) ↔
        RegisterHandled settings faults registerEnv registerRequest) := by
  constructor
  · exact sameAnswer_authenticate_iff settings faults authEnv mcpRequest w hthreshold
      (fun h => hbelow h _ _) hauth
  · exact sameAnswer_registerClient_iff settings faults registerEnv registerRequest w hthreshold
      (fun h => hbelow h _ _) hregister

end FailsOpen

/-- A cache all of whose calls fail in one way. -/
def failingCache (fault : CacheFault) : CacheFaults := fun _ => some fault

theorem outage_fails_open_iff_probe :
    letI := asciiDatabase
    (SameAnswer ((authenticate exampleSettings (failingCache .connectionError) exampleAuthEnv
            bearerRequest).run emptyWorld)
          ((authenticate exampleSettings healthyCache exampleAuthEnv bearerRequest).run
            emptyWorld.withoutCounters) ↔
        AuthHandled exampleSettings (failingCache .connectionError) exampleAuthEnv
          bearerRequest) ∧
      (SameAnswer ((registerClient exampleSettings (failingCache .connectionError)
            exampleRegisterEnv (registrationOf "http://localhost/")).run emptyWorld)
          ((registerClient exampleSettings healthyCache exampleRegisterEnv
            (registrationOf "http://localhost/")).run emptyWorld.withoutCounters) ↔
        RegisterHandled exampleSettings (failingCache .connectionError) exampleRegisterEnv
          (registrationOf "http://localhost/")) :=
  letI := asciiDatabase
  outage_fails_open_iff exampleSettings (failingCache .connectionError) exampleAuthEnv
    bearerRequest exampleRegisterEnv (registrationOf "http://localhost/") emptyWorld (by decide)
    (by simp [failingCache]) (by decide) (show Except.ok _ ≠ Except.error _ from nofun)

/-- Redis going away makes the block check of a bearer request raise instead of failing open. -/
theorem outage_not_always_open :
    ¬∀ (_ : UnicodeDatabase) (settings : Settings) (faults : CacheFaults) (env : AuthEnv)
        (request : McpRequest) (w : World), 0 < settings.badTokenIpThreshold →
      (∀ key, w.cache.live key = none) →
        SameAnswer ((authenticate settings faults env request).run w)
          ((authenticate settings healthyCache env request).run w.withoutCounters) := by
  intro hopen
  have hsame := hopen asciiDatabase exampleSettings (failingCache .backend) exampleAuthEnv
    bearerRequest emptyWorld (by decide) (fun _ => rfl)
  exact absurd hsame.1 (by decide)

end McpSql
