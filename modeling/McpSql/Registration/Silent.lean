import McpSql.Registration.Exact

/-!
# The silent block of a registration

Once an IP has registered too often, `register_client` answers as before and creates nothing.  Two runs
that differ in the counter of the IP only should look the same from outside.  They part where the
insert of the row fails, or the counting behind it: the blocked run comes to neither.
-/

namespace McpSql

open Python PyStr Effect

/-! ## Two runs -/

/-- The counter of the requesting IP. -/
def registerKey (request : RegisterRequest) : PyStr :=
  ipKey (lit "register") (throttleIp request.remoteAddr)

/-- The state with another counter under a key, or with none. -/
def World.withCounter (w : World) (key : PyStr) (entry : Option FixedWindow.Entry) : World :=
  { w with cache := { w.cache with entries := Function.update w.cache.entries key entry } }

section Blocks

variable [UnicodeDatabase] (settings : Settings) (faults : CacheFaults) (env : RegisterEnv)
  (request : RegisterRequest)

/-- The IP of the request is blocked. -/
def IsBlocked (w : World) : Prop :=
  outcome ((isIpBlocked faults (throttleIp request.remoteAddr) (lit "register")
    settings.badTokenIpThreshold).run w) = .ok true

/-- The block cannot be seen from outside, and creates and counts nothing. -/
structure BlockSilent : Prop where
  same : ∀ (w : World) (entry : Option FixedWindow.Entry),
    outcome ((registerClient settings faults env request).run w) =
      outcome ((registerClient settings faults env request).run
        (w.withCounter (registerKey request) entry))
  inert : ∀ w, IsBlocked settings faults request w →
    (finalState ((registerClient settings faults env request).run w)).applications =
        w.applications ∧
      (finalState ((registerClient settings faults env request).run w)).cache = w.cache

end Blocks

/-! ## The two ways of a valid request -/

section Ways

variable (settings : Settings) (faults : CacheFaults) (env : RegisterEnv) (request : RegisterRequest)

/-- What creating and counting answers. -/
theorem outcome_createAndCount (ip : PyStr) (row : Application) (response : JsonResponse)
    (w : World) : outcome ((createAndCount settings faults env ip row response).run w) =
      match env.create row with
      | .error e => .error e
      | .ok _ => (outcome ((recordAttempt faults ip (lit "register")
          settings.badTokenIpWindowSeconds settings.badTokenIpThreshold).run
            { w with applications := w.applications ++ [row] })).map fun _ => response := by
  unfold createAndCount createApplication
  cases hcreate : env.create row with
  | error e => simp
  | ok u =>
    simp only [EStateM.run_bind, run_call_ok, EStateM.run_modify]
    cases (recordAttempt faults ip (lit "register") settings.badTokenIpWindowSeconds
        settings.badTokenIpThreshold).run { w with applications := w.applications ++ [row] } with
    | ok count w' => rfl
    | error e w' => rfl

/-- The failure a count escapes with does not depend on what has been counted. -/
theorem recordAttempt_error_congr {ip scope : PyStr} {window threshold : ℕ} {w : World} {e : PyExc}
    (h : outcome ((recordAttempt faults ip scope window threshold).run w) = .error e) (w' : World) :
    outcome ((recordAttempt faults ip scope window threshold).run w') = .error e := by
  rw [outcome_recordAttempt, seedAndCount, outcome_seedAndIncr] at h ⊢
  rcases hadd : faults .countAdd with _ | fault
  · rcases hincr : faults .countIncr with _ | fault
    · -- a counter that has expired in between is an outage the throttle knows
      simp only [hadd, hincr] at h
      rcases hcount : (w.cache.add (ipKey scope ip) 0 window).2.incr (ipKey scope ip) with _ | pair
      · simp [hcount, isOutage, PyExc.isValueError] at h
      · simp [hcount] at h
    · simpa [hadd, hincr] using h
  · simpa [hadd] using h

/-- Creating and counting answers the same whatever has been counted. -/
theorem outcome_createAndCount_congr (ip : PyStr) (row : Application) (response : JsonResponse)
    (w w' : World) : outcome ((createAndCount settings faults env ip row response).run w) =
      outcome ((createAndCount settings faults env ip row response).run w') := by
  rw [outcome_createAndCount, outcome_createAndCount]
  rcases env.create row with e | u
  · rfl
  · rcases hcount : outcome ((recordAttempt faults ip (lit "register")
        settings.badTokenIpWindowSeconds settings.badTokenIpThreshold).run
          { w with applications := w.applications ++ [row] }) with e | count
    · rw [recordAttempt_error_congr faults hcount]
    · rcases hcount' : outcome ((recordAttempt faults ip (lit "register")
          settings.badTokenIpWindowSeconds settings.badTokenIpThreshold).run
            { w' with applications := w'.applications ++ [row] }) with e' | count'
      · have hback := recordAttempt_error_congr faults hcount'
          { w with applications := w.applications ++ [row] }
        rw [hcount] at hback
        simp at hback
      · rfl

/-- What a request of an IP that is not blocked comes to. -/
def createFor (registration : Registration) : Py JsonResponse :=
  createAndCount settings faults env (throttleIp request.remoteAddr)
    (applicationRow (newClientId settings env) registration)
    (registrationResponse env request (newClientId settings env) registration)

/-- It answers with the response exactly when the row is stored and the count does not raise. -/
theorem outcome_createFor_eq_ok_iff {registration : Registration} {w : World} :
    outcome ((createFor settings faults env request registration).run w) =
        .ok (registrationResponse env request (newClientId settings env) registration) ↔
      env.create (applicationRow (newClientId settings env) registration) = .ok () ∧
        CountHandled faults := by
  let row := applicationRow (newClientId settings env) registration
  have hanswer := outcome_createAndCount settings faults env (throttleIp request.remoteAddr) row
    (registrationResponse env request (newClientId settings env) registration) w
  unfold createFor
  rw [hanswer]
  rcases env.create row with e | u
  · exact iff_of_false (by simp) fun h => by simp at h
  · by_cases hhandled : CountHandled faults
    · obtain ⟨count, hcount⟩ := recordAttempt_returns (throttleIp request.remoteAddr)
        (lit "register") settings.badTokenIpWindowSeconds settings.badTokenIpThreshold
        { w with applications := w.applications ++ [row] } hhandled
      rw [hcount]
      exact iff_of_true rfl ⟨rfl, hhandled⟩
    · obtain ⟨e, he⟩ := recordAttempt_raises (throttleIp request.remoteAddr)
        (lit "register") settings.badTokenIpWindowSeconds settings.badTokenIpThreshold
        { w with applications := w.applications ++ [row] } hhandled
      rw [he]
      exact iff_of_false (by simp [Except.map]) fun h => hhandled h.2

/-- What a valid request is answered. -/
theorem outcome_storeRegistration (registration : Registration) (w : World) :
    outcome ((storeRegistration settings faults env request registration).run w) =
      match faults .blockGet with
      | none =>
        if settings.badTokenIpThreshold ≤ w.cache.count (registerKey request) then
          .ok (registrationResponse env request (newClientId settings env) registration)
        else outcome ((createFor settings faults env request registration).run w)
      | some fault =>
        if isOutage fault.exc then
          outcome ((createFor settings faults env request registration).run w)
        else .error fault.exc := by
  rw [run_storeRegistration, run_isIpBlocked, registerKey, createFor]
  rcases faults .blockGet with _ | fault
  · by_cases hblocked : settings.badTokenIpThreshold ≤
        w.cache.count (ipKey (lit "register") (throttleIp request.remoteAddr))
    · simp [hblocked]
    · simp [hblocked]
  · by_cases hcaught : isOutage fault.exc = true
    · simp [hcaught]
    · simp [hcaught]

end Ways

/-- A counter that has reached a value and lives on. -/
def counterAt (value : ℕ) : FixedWindow.Entry := ⟨value, 1⟩

theorem count_withCounter (key : PyStr) (value : ℕ) :
    (emptyWorld.withCounter key (some (counterAt value))).cache.count key = value := by
  simp [World.withCounter, FixedWindow.Cache.count, FixedWindow.Cache.get, FixedWindow.Cache.live,
    emptyWorld, FixedWindow.Cache.empty, counterAt, Option.filter]

/-! ## The law -/

/-- Joined texts are clean exactly when each of them is. -/
theorem isClean_joinSpace (parts : List PyStr) :
    isClean (joinSpace parts) = parts.all isClean := by
  induction parts with
  | nil => rfl
  | cons first rest ih =>
    cases rest with
    | nil => simp
    | cons second rest =>
      have hspace : isClean (0x20 :: joinSpace (second :: rest)) =
          isClean (joinSpace (second :: rest)) := rfl
      rw [joinSpace_cons_cons, isClean_append, hspace, ih]
      rfl

section Law

variable (settings : Settings) (faults : CacheFaults) (env : RegisterEnv) (request : RegisterRequest)

/-- A valid request is answered alike in all states of the counter exactly when the row is stored and
the count does not raise, or the block check does not read the counter. -/
theorem storeRegistration_same_iff (hthreshold : 0 < settings.badTokenIpThreshold)
    (registration : Registration) :
    (∀ (w : World) (entry : Option FixedWindow.Entry),
        outcome ((storeRegistration settings faults env request registration).run w) =
          outcome ((storeRegistration settings faults env request registration).run
            (w.withCounter (registerKey request) entry))) ↔
      (faults .blockGet = none →
        env.create (applicationRow (newClientId settings env) registration) = .ok () ∧
          CountHandled faults) := by
  constructor
  · intro h hget
    have hsame := h emptyWorld (some (counterAt settings.badTokenIpThreshold))
    have hbelow : ¬settings.badTokenIpThreshold ≤ emptyWorld.cache.count (registerKey request) := by
      have hzero : emptyWorld.cache.count (registerKey request) = 0 := rfl
      omega
    rw [outcome_storeRegistration, outcome_storeRegistration, hget] at hsame
    simp only [count_withCounter, if_pos (Nat.le_refl settings.badTokenIpThreshold),
      if_neg hbelow] at hsame
    exact (outcome_createFor_eq_ok_iff settings faults env request).mp hsame
  · intro h w entry
    have hcongr : outcome ((createFor settings faults env request registration).run w) =
        outcome ((createFor settings faults env request registration).run
          (w.withCounter (registerKey request) entry)) :=
      outcome_createAndCount_congr settings faults env _ _ _ _ _
    rw [outcome_storeRegistration, outcome_storeRegistration]
    rcases hget : faults .blockGet with _ | fault
    · have hanswer : ∀ w', outcome ((createFor settings faults env request registration).run w') =
          .ok (registrationResponse env request (newClientId settings env) registration) :=
        fun w' => (outcome_createFor_eq_ok_iff settings faults env request).mpr (h hget)
      simp only [hanswer, ite_self]
    · simp only [hcongr]

variable [UnicodeDatabase]

/-- A blocked run leaves the state as it is. -/
theorem finalState_of_isBlocked {w : World} (h : IsBlocked settings faults request w) :
    finalState ((registerClient settings faults env request).run w) = w := by
  unfold registerClient
  rcases validateRegistration request.body with e | response | registration
  · rfl
  · rfl
  · have hfinal := finalState_isIpBlocked faults (throttleIp request.remoteAddr) (lit "register")
      settings.badTokenIpThreshold w
    have hrun := run_storeRegistration settings faults env request registration w
    unfold IsBlocked at h
    rcases hcheck : (isIpBlocked faults (throttleIp request.remoteAddr) (lit "register")
        settings.badTokenIpThreshold).run w with ⟨blocked, w'⟩ | ⟨e, w'⟩
    · rw [hcheck] at h hfinal hrun
      obtain rfl := Except.ok.inj h
      simp only [] at hrun
      rw [hrun]
      exact hfinal
    · simp [hcheck] at h

/-- The block is silent exactly when, for a valid body, the redirect URIs hold no text the database
refuses, the row is stored and the count does not raise, or the block check fails. -/
theorem block_silent_iff (hthreshold : 0 < settings.badTokenIpThreshold)
    (hdatabase : ∀ row : Application, isClean row.redirectUris = false → env.create row ≠ .ok ()) :
    BlockSilent settings faults env request ↔
      ∀ registration, validateRegistration request.body = .ok (.inr registration) →
        faults .blockGet = none →
          (∀ uri ∈ registration.redirectUris, isClean uri = true) ∧
            env.create (applicationRow (newClientId settings env) registration) = .ok () ∧
              CountHandled faults := by
  have hclean : ∀ registration : Registration,
      env.create (applicationRow (newClientId settings env) registration) = .ok () →
        ∀ uri ∈ registration.redirectUris, isClean uri = true := by
    intro registration hstored
    have hjoined : isClean (joinSpace registration.redirectUris) = true := by
      by_contra hdirty
      rw [Bool.not_eq_true] at hdirty
      exact hdatabase (applicationRow (newClientId settings env) registration) hdirty hstored
    rw [isClean_joinSpace, List.all_eq_true] at hjoined
    exact hjoined
  have hinert : ∀ w, IsBlocked settings faults request w →
      (finalState ((registerClient settings faults env request).run w)).applications =
          w.applications ∧
        (finalState ((registerClient settings faults env request).run w)).cache = w.cache := by
    intro w hblocked
    rw [finalState_of_isBlocked settings faults env request hblocked]
    exact ⟨rfl, rfl⟩
  constructor
  · intro h registration hvalid hget
    have hsame := h.same
    unfold registerClient at hsame
    simp only [hvalid] at hsame
    obtain ⟨hstored, hcount⟩ :=
      (storeRegistration_same_iff settings faults env request hthreshold registration).mp hsame hget
    exact ⟨hclean registration hstored, hstored, hcount⟩
  · intro h
    refine ⟨fun w entry => ?_, hinert⟩
    unfold registerClient
    rcases hvalid : validateRegistration request.body with e | response | registration
    · rfl
    · rfl
    · exact (storeRegistration_same_iff settings faults env request hthreshold registration).mpr
        (fun hget => (h registration hvalid hget).2) w entry

end Law

/-! ## Examples -/

/-- A database that refuses the text it must refuse, and nothing else. -/
def strictRegisterEnv : RegisterEnv where
  tokenUrlsafe := lit "AAAAAAAAAAAAAAAAAAAAAA"
  timestamp := 0
  create row := if isClean row.redirectUris then .ok () else
    .error (.valueError (lit "A string literal cannot contain NUL (0x00) characters."))

/-- The block of an ordinary client is silent. -/
theorem block_silent_callback : letI := asciiDatabase
    BlockSilent exampleSettings healthyCache strictRegisterEnv
      (registrationOf "http://127.0.0.1:3456/callback") := by
  let _ := asciiDatabase
  have hdatabase : ∀ row : Application, isClean row.redirectUris = false →
      strictRegisterEnv.create row ≠ .ok () := by
    intro row hdirty
    simp [strictRegisterEnv, hdirty]
  apply (block_silent_iff exampleSettings healthyCache strictRegisterEnv
    (registrationOf "http://127.0.0.1:3456/callback") (by decide) hdatabase).mpr
  intro registration hvalid _
  have hcallback : validateRegistration (registrationOf "http://127.0.0.1:3456/callback").body =
      .ok (.inr ⟨[lit "http://127.0.0.1:3456/callback"], .str (lit "Unnamed MCP client")⟩) := by rfl
  obtain rfl := Sum.inr.inj (Except.ok.inj (hcallback.symm.trans hvalid))
  exact ⟨by decide, by decide, fun _ hfault => by simp [healthyCache] at hfault,
    fun _ _ hfault => by simp [healthyCache] at hfault⟩

/-- A registration of a redirect URI with a null character. -/
def nullRequest : RegisterRequest :=
  { registrationOf "" with
    body := .ok (.obj [(lit "redirect_uris", .arr [.str (lit "http://localhost/" ++ [0])])]) }

/-- On a null character the insert fails, and only an IP that is not blocked comes to the insert. -/
theorem block_not_silent : letI := asciiDatabase
    let run := fun w =>
      outcome ((registerClient exampleSettings healthyCache strictRegisterEnv nullRequest).run w)
    let blocked := emptyWorld.withCounter (registerKey nullRequest) (some (counterAt 100))
    raised (run emptyWorld) = some (.valueError
        (lit "A string literal cannot contain NUL (0x00) characters.")) ∧
      raised (run blocked) = none ∧
      ¬BlockSilent exampleSettings healthyCache strictRegisterEnv nullRequest := by
  let _ := asciiDatabase
  intro run blocked
  have hbelow : raised (run emptyWorld) = some (.valueError
      (lit "A string literal cannot contain NUL (0x00) characters.")) := by decide +kernel
  have hblocked : raised (run blocked) = none := by decide +kernel
  refine ⟨hbelow, hblocked, fun h => ?_⟩
  have hsame : run emptyWorld = run blocked := h.same emptyWorld (some (counterAt 100))
  rw [hsame, hblocked] at hbelow
  simp at hbelow

end McpSql
