import McpSql.Auth.CloudRedirects
import McpSql.Auth.Issuance
import McpSql.Foundations.GuardedRun
import McpSql.Registration.Names
import McpSql.Registration.Redirects

/-!
# Where authorization codes go

The rows of MCP applications come from three places: the curated one from a migration
(`migrations/0005_create_mcp_sql_application.py`), those of the cloud clients from
`provision_mcp_cloud_clients` (`signals.py`), and all others from anonymous registrations
(`views/registration.py`).  The issuance gate (`views/oauth_authorize.py`) and `MCPOAuth2Validator`
(`oauth.py`) stand between them and a code.  Whatever the history of the table, a code that passes
them goes to the loopback address of the curated row, to a callback an operator has declared, or
under a prefix an operator declares now, or to a loopback URI that was registered; and only the
curated row skips the consent page.
-/

namespace McpSql

open Python PyStr Effect Raising GuardedRun

/-! ## The migration -/

/-- The row of the curated application. -/
def mcpApplicationRow (settings : Settings) : Application where
  name := settings.applicationName
  clientId := settings.applicationName
  clientSecret := []
  clientType := lit "public"
  authorizationGrantType := lit "authorization-code"
  skipAuthorization := true
  redirectUris := lit "http://127.0.0.1"
  algorithm := []

/-- `create_application` of the migration: `update_or_create` on the name, which the table does not
keep unique, of a row with a `client_id`, which it does. -/
def createMcpApplication (settings : Settings) (applications : List Application) :
    Except PyExc (List Application) :=
  let row := mcpApplicationRow settings
  if 1 < applications.countP (·.name = row.name) then
    .error (.otherException (lit "MultipleObjectsReturned") none)
  else if applications.any fun a => a.name ≠ row.name && a.clientId = row.clientId then
    .error (.databaseError (lit "duplicate key value violates unique constraint")
      (some (lit "23505")))
  else if applications.any (·.name = row.name) then
    .ok (applications.map fun a => if a.name = row.name then row else a)
  else .ok (applications ++ [row])

/-- `delete_application` of the migration. -/
def deleteMcpApplication (settings : Settings) (applications : List Application) :
    List Application :=
  applications.filter (·.name ≠ settings.applicationName)

/-! ## The validator -/

/-- The parts of django-oauth-toolkit the validator falls through to: `Application.is_usable`,
`Application.default_redirect_uri`, `redirect_to_uri_allowed` on the URIs of an application, and
`validate_scopes`. -/
structure Toolkit where
  isUsable : Application → Bool
  defaultRedirectUri : List PyStr → Option PyStr
  redirectToUriAllowed : PyStr → List PyStr → Bool
  validateScopes : List PyStr → Bool

/-- `MCPOAuth2Validator.validate_client_id`: the application that is bound to the request, when it is
usable and its name is one of ours. -/
def validateClientId (settings : Settings) (toolkit : Toolkit) (applications : List Application)
    (clientId : PyStr) : Option Application :=
  (applications.find? (·.clientId = clientId)).filter fun application =>
    toolkit.isUsable application && isMcpApplicationName settings application.name

/-- `MCPOAuth2Validator.validate_redirect_uri`, for the application that is bound to the request. -/
def validateRedirectUri [UnicodeDatabase] (settings : Settings) (toolkit : Toolkit)
    (application : Application) (clientId redirectUri : PyStr) : Bool :=
  match (cloudClients settings).reverse.find? (·.clientId = clientId) with
  | some client =>
    if client.redirectMatch = lit "prefix" then redirectUnderPrefix redirectUri client.redirectUri
    else toolkit.redirectToUriAllowed redirectUri (storedUris application)
  | none => toolkit.redirectToUriAllowed redirectUri (storedUris application)

/-- `MCPOAuth2Validator.validate_scopes`. -/
def validateScopes (settings : Settings) (toolkit : Toolkit) (scopes : List PyStr) : Bool :=
  if scopes = [] then false
  else if ¬(scopes.all (· = settings.scope)) then false
  else toolkit.validateScopes scopes

/-! ## A request for a code -/

/-- A request to `/o/authorize/` by a user who is logged in. -/
structure AuthorizeRequest where
  user : User
  clientId : PyStr
  redirectUri : Option PyStr
  scopes : List PyStr

/-- Where the code of a request goes: to the redirect of the request when the validator admits it, or
to the default of the application when the request has none. -/
def requestRedirect [UnicodeDatabase] (settings : Settings) (toolkit : Toolkit)
    (application : Application) (request : AuthorizeRequest) : Option PyStr :=
  match request.redirectUri with
  | some uri =>
    if validateRedirectUri settings toolkit application request.clientId uri then some uri else none
  | none => toolkit.defaultRedirectUri (storedUris application)

/-- The application and the redirect of a request that passes the gate and the validator. -/
def codeRedirect [UnicodeDatabase] (settings : Settings) (env : AuthEnv) (toolkit : Toolkit)
    (applications : List Application) (request : AuthorizeRequest) :
    Except PyExc (Option (Application × PyStr)) := do
  enforceGate settings env request.user
  return do
    let application ← validateClientId settings toolkit applications request.clientId
    let redirectUri ← requestRedirect settings toolkit application request
    if validateScopes settings toolkit request.scopes then some (application, redirectUri) else none

/-! ## The history of the table -/

/-- What becomes of the table of applications: the migration and its reverse, the provisioning after a
migrate, a registration, and everything else, which leaves the applications alone. -/
inductive ApplicationEvent where
  | create (settings : Settings)
  | delete (settings : Settings)
  | provision (settings : Settings) (sender usingAlias : Option PyStr)
  | register (settings : Settings) (faults : CacheFaults) (env : RegisterEnv)
      (request : RegisterRequest)
  | elsewhere (w : World)

/-- The world after an event; a migration that raises is rolled back. -/
def afterEvent [UnicodeDatabase] (w : World) : ApplicationEvent → World
  | .create settings =>
    { w with
      applications := (createMcpApplication settings w.applications).toOption.getD w.applications }
  | .delete settings => { w with applications := deleteMcpApplication settings w.applications }
  | .provision settings sender usingAlias =>
    { w with
      applications := provisionMcpCloudClients settings sender usingAlias w.applications }
  | .register settings faults env request =>
    finalState ((registerClient settings faults env request).run w)
  | .elsewhere w' => { w' with applications := w.applications }

/-- A row an event writes. -/
def Writes [UnicodeDatabase] : ApplicationEvent → Application → Prop
  | .create settings, row => row = mcpApplicationRow settings
  | .delete _, _ => False
  | .provision settings sender _, row => sender = some (lit "mcp_sql") ∧
      ∃ client ∈ cloudClients settings, row = cloudApplicationRow client
  | .register settings _ env request, row => ∃ registration,
      validateRegistration request.body = .ok (.inr registration) ∧
        row = applicationRow (newClientId settings env) registration
  | .elsewhere _, _ => False

section History

/-- The migration adds its row, or puts it in the place of one. -/
theorem mem_createMcpApplication {settings : Settings} {applications applications' : List Application}
    {row : Application} (h : createMcpApplication settings applications = .ok applications')
    (hrow : row ∈ applications') : row ∈ applications ∨ row = mcpApplicationRow settings := by
  unfold createMcpApplication at h
  dsimp only at h
  split_ifs at h
  · obtain rfl := Except.ok.inj h
    obtain ⟨a, ha, hmap⟩ := List.mem_map.mp hrow
    split_ifs at hmap
    · exact Or.inr hmap.symm
    · exact Or.inl (hmap ▸ ha)
  · obtain rfl := Except.ok.inj h
    simpa using hrow

variable [UnicodeDatabase]

/-- A registration adds the row of a valid body, or nothing. -/
theorem mem_registerClient {settings : Settings} {faults : CacheFaults} {env : RegisterEnv}
    {request : RegisterRequest} {w : World} {row : Application}
    (h : row ∈ (finalState ((registerClient settings faults env request).run w)).applications) :
    row ∈ w.applications ∨ Writes (.register settings faults env request) row := by
  unfold registerClient at h
  cases hvalid : validateRegistration request.body with
  | error e =>
    rw [hvalid] at h
    exact Or.inl h
  | ok verdict =>
    rw [hvalid] at h
    cases verdict with
    | inl response => exact Or.inl h
    | inr registration =>
      rcases applications_storeRegistration settings faults env request registration w with
        hsame | hadded
      · exact Or.inl (hsame ▸ h)
      · rcases List.mem_append.mp (hadded ▸ h) with hold | hnew
        · exact Or.inl hold
        · exact Or.inr ⟨registration, hvalid, List.mem_singleton.mp hnew⟩

/-- Every row after an event was there before, or the event writes it. -/
theorem mem_afterEvent (w : World) (event : ApplicationEvent) (row : Application)
    (h : row ∈ (afterEvent w event).applications) : row ∈ w.applications ∨ Writes event row := by
  cases event with
  | create settings =>
    have hget : row ∈ (createMcpApplication settings w.applications).toOption.getD
        w.applications := h
    cases hcreate : createMcpApplication settings w.applications with
    | error e =>
      rw [hcreate] at hget
      exact Or.inl hget
    | ok applications =>
      rw [hcreate] at hget
      exact mem_createMcpApplication hcreate hget
  | delete settings => exact Or.inl (List.mem_filter.mp h).1
  | provision settings sender usingAlias => exact mem_provisionMcpCloudClients h
  | register settings faults env request => exact mem_registerClient h
  | elsewhere w' => exact Or.inl h

/-! ## Where a redirect leads -/

/-- A redirect leads to a URI that is registered: it is the same, or scheme, host and path are, and so
is the port unless the registered one names a loopback address. -/
def LeadsTo (redirectUri registered : PyStr) : Prop :=
  redirectUri = registered ∨ ∃ got want, urlparse redirectUri = some got ∧
    urlparse registered = some want ∧ got.scheme = want.scheme ∧ got.hostname = want.hostname ∧
    got.path = want.path ∧ (got.port = want.port ∨ want.scheme = lit "http" ∧
      want.hostname.any (· ∈ [lit "127.0.0.1", lit "::1"]))

/-- What django-oauth-toolkit promises about redirects, with wildcards off: the default is a registered
URI, and one that is allowed leads to a registered one. -/
structure Toolkit.Documented (toolkit : Toolkit) : Prop where
  default : ∀ uris uri, toolkit.defaultRedirectUri uris = some uri → uri ∈ uris
  allowed : ∀ uri uris, toolkit.redirectToUriAllowed uri uris = true → ∃ u ∈ uris, LeadsTo uri u

/-- A redirect over http to one of some hosts. -/
def LeadsToHost (redirectUri : PyStr) (hosts : List PyStr) : Prop :=
  ∃ got, urlparse redirectUri = some got ∧ got.scheme = lit "http" ∧
    ∃ host ∈ hosts, got.hostname = some host

/-- What leads to a URI on some host leads to that host. -/
theorem leadsToHost_of_leadsTo {redirectUri registered : PyStr} {hosts : List PyStr}
    (hleads : LeadsTo redirectUri registered) (hhost : LeadsToHost registered hosts) :
    LeadsToHost redirectUri hosts := by
  rcases hleads with rfl | ⟨got, want, hgot, hwant, hscheme, hname, -, -⟩
  · exact hhost
  · obtain ⟨want', hwant', hhttp, host, hmem, hhost⟩ := hhost
    obtain rfl := Option.some.inj (hwant.symm.trans hwant')
    exact ⟨got, hgot, hscheme.trans hhttp, host, hmem, hname.trans hhost⟩

theorem leadsToHost_of_isLoopbackRedirect {registered : PyStr}
    (h : isLoopbackRedirect registered = .ok true) : LeadsToHost registered loopbackHosts := by
  unfold isLoopbackRedirect at h
  cases hwant : urlparse registered with
  | none => simp [hwant] at h
  | some want =>
    simp only [hwant] at h
    split_ifs at h with hscheme huser
    · exact absurd h (by simp)
    · exact absurd h (by simp)
    · have hhost := Except.ok.inj h
      cases hname : want.hostname with
      | none => simp [hname] at hhost
      | some host => exact ⟨want, hwant, not_not.mp hscheme, host, by simpa [hname] using hhost, hname⟩

/-- The redirect of the curated application names the loopback address. -/
theorem leadsToHost_curated : LeadsToHost (lit "http://127.0.0.1") [lit "127.0.0.1"] := by
  refine ⟨⟨lit "http", lit "127.0.0.1", [], [], [], []⟩, rfl, rfl, _, List.mem_singleton_self _, ?_⟩
  show some (lower (lit "127.0.0.1")) = _
  rw [UnicodeDatabase.lower_ascii _ fun c hc =>
    List.all_eq_true.mp (by decide : (lit "127.0.0.1").all isAscii = true) c hc]
  rfl

/-! ## What a code tells -/

/-- Where the code of a request may go, over a history of the table. -/
inductive Destination (settings : Settings) (history : List ApplicationEvent) (clientId : PyStr)
    (application : Application) (redirectUri : PyStr) : Prop where
  /-- Under a prefix that is declared now. -/
  | under (client : CloudClient) (declared : client ∈ cloudClients settings)
      (id : client.clientId = clientId) (isPrefix : client.redirectMatch = lit "prefix")
      (accepts : ∃ got want, urlparse redirectUri = some got ∧
        urlparse client.redirectUri = some want ∧ Accepts got want)
  /-- To the loopback address of the curated application. -/
  | curated (created : Settings) (mem : .create created ∈ history)
      (row : application = mcpApplicationRow created)
      (leads : LeadsToHost redirectUri [lit "127.0.0.1"])
  /-- To the callback of a cloud client that was provisioned. -/
  | callback (provisioned : Settings) (usingAlias : Option PyStr)
      (mem : .provision provisioned (some (lit "mcp_sql")) usingAlias ∈ history)
      (client : CloudClient) (declared : client ∈ cloudClients provisioned)
      (row : application = cloudApplicationRow client)
      (leads : ∃ u ∈ split client.redirectUri, LeadsTo redirectUri u)
  /-- To a loopback URI that was registered; one with whitespace in it is stored as several. -/
  | registered (registering : Settings) (faults : CacheFaults) (env : RegisterEnv)
      (request : RegisterRequest) (mem : .register registering faults env request ∈ history)
      (row : ∃ registration, validateRegistration request.body = .ok (.inr registration) ∧
        application = applicationRow (newClientId registering env) registration)
      (leads : (∀ u ∈ submittedUris request.body, NoSpace u) →
        LeadsToHost redirectUri loopbackHosts)

/-- What holds whenever a code may be sent. -/
structure CodeDelivered (settings : Settings) (env : AuthEnv) (history : List ApplicationEvent)
    (request : AuthorizeRequest) (application : Application) (redirectUri : PyStr) : Prop where
  staff : (request.user.isActive && request.user.isStaff) = true
  mfa : env.mfaChecker request.user = .ok true
  profile : ∃ held profile, env.permissions request.user = .ok held ∧
    resolveProfile settings held = .bound profile
  client : application.clientId = request.clientId ∧
    isMcpApplicationName settings application.name = true
  scopes : request.scopes ≠ [] ∧ ∀ scope ∈ request.scopes, scope = settings.scope
  destination : Destination settings history request.clientId application redirectUri
  /-- The consent page is skipped for the curated application alone, and then the code goes to the
  loopback address, unless the id of the curated application is declared for a cloud client. -/
  consent : application.skipAuthorization = true → ∃ created, .create created ∈ history ∧
    application = mcpApplicationRow created ∧
    ((∀ client ∈ cloudClients settings, client.clientId ≠ created.applicationName) →
      LeadsToHost redirectUri [lit "127.0.0.1"])

omit [UnicodeDatabase] in
/-- A user who passes the gate is active staff, has MFA and holds one profile. -/
theorem bound_of_enforceGate {settings : Settings} {env : AuthEnv} {user : User}
    (h : enforceGate settings env user = .ok ()) :
    (user.isActive && user.isStaff) = true ∧ env.mfaChecker user = .ok true ∧
      ∃ held profile, env.permissions user = .ok held ∧
        resolveProfile settings held = .bound profile := by
  unfold enforceGate at h
  simp only [bind_eq_ok, raiseIf_eq_ok] at h
  obtain ⟨-, hstaff, verified, hmfa, -, hverified, held, hheld, -, hsome, hone⟩ := h
  refine ⟨by simpa using hstaff, ?_, held, ?_⟩
  · rw [hmfa]
    simpa using hverified
  · cases hresolve : resolveProfile settings held with
    | noPerm => exact absurd hresolve hsome
    | ambiguousProfile => exact absurd hresolve hone
    | bound profile => exact ⟨profile, hheld, rfl⟩

/-- A redirect to a stored URI of a row goes where the event that wrote the row says. -/
theorem destination_of_leadsTo {settings : Settings} {history : List ApplicationEvent}
    {clientId redirectUri u : PyStr} {application : Application} {event : ApplicationEvent}
    (hevent : event ∈ history) (hwrites : Writes event application)
    (hu : u ∈ storedUris application) (hleads : LeadsTo redirectUri u) :
    Destination settings history clientId application redirectUri := by
  cases event with
  | create created =>
    have hrow : application = mcpApplicationRow created := hwrites
    rw [hrow] at hu
    have hstored : u ∈ [lit "http://127.0.0.1"] := hu
    rw [List.mem_singleton.mp hstored] at hleads
    exact .curated created hevent hrow (leadsToHost_of_leadsTo hleads leadsToHost_curated)
  | delete _ => exact absurd hwrites id
  | provision provisioned sender usingAlias =>
    obtain ⟨rfl, client, hclient, rfl⟩ := hwrites
    exact .callback provisioned usingAlias hevent client hclient rfl ⟨u, hu, hleads⟩
  | register registering faults env request =>
    obtain ⟨registration, hvalid, rfl⟩ := hwrites
    refine .registered registering faults env request hevent ⟨registration, hvalid, rfl⟩
      fun hspace => ?_
    obtain ⟨huris, hall⟩ := redirectUris_of_validateRegistration hvalid
    rw [← huris] at hspace
    have hsplit : storedUris (applicationRow (newClientId registering env) registration) =
        registration.redirectUris :=
      (split_joinSpace_eq_iff fun v hv => ne_nil_of_isLoopbackRedirect (hall v hv)).mpr hspace
    rw [hsplit] at hu
    exact leadsToHost_of_leadsTo hleads (leadsToHost_of_isLoopbackRedirect (hall u hu))
  | elsewhere _ => exact absurd hwrites id

/-- An admitted redirect of a known row goes where the event that wrote the row says, or under a
declared prefix. -/
theorem destination_of_requestRedirect {settings : Settings} {toolkit : Toolkit}
    (hdocumented : toolkit.Documented) {history : List ApplicationEvent}
    {request : AuthorizeRequest} {application : Application} {redirectUri : PyStr}
    {event : ApplicationEvent} (hevent : event ∈ history) (hwrites : Writes event application)
    (h : requestRedirect settings toolkit application request = some redirectUri) :
    Destination settings history request.clientId application redirectUri := by
  have hallowed : toolkit.redirectToUriAllowed redirectUri (storedUris application) = true →
      Destination settings history request.clientId application redirectUri := by
    intro hmatch
    obtain ⟨u, hu, hleads⟩ := hdocumented.allowed _ _ hmatch
    exact destination_of_leadsTo hevent hwrites hu hleads
  unfold requestRedirect at h
  cases hgiven : request.redirectUri with
  | none =>
    rw [hgiven] at h
    exact destination_of_leadsTo hevent hwrites (hdocumented.default _ _ h) (Or.inl rfl)
  | some uri =>
    simp only [hgiven, Option.ite_none_right_eq_some, Option.some.injEq] at h
    obtain ⟨hvalid, rfl⟩ := h
    unfold validateRedirectUri at hvalid
    cases hcloud : (cloudClients settings).reverse.find? (·.clientId = request.clientId) with
    | none =>
      rw [hcloud] at hvalid
      exact hallowed hvalid
    | some client =>
      simp only [hcloud] at hvalid
      have hclient : client ∈ cloudClients settings :=
        List.mem_reverse.mp (List.mem_of_find?_eq_some hcloud)
      have hid : client.clientId = request.clientId := by simpa using List.find?_some hcloud
      by_cases hprefix : client.redirectMatch = lit "prefix"
      · rw [if_pos hprefix] at hvalid
        exact .under client hclient hid hprefix (accepts_of_redirectUnderPrefix hvalid)
      · rw [if_neg hprefix] at hvalid
        exact hallowed hvalid

/-- Only the migration writes a row that skips the consent page. -/
theorem created_of_skipAuthorization {event : ApplicationEvent} {application : Application}
    (hwrites : Writes event application) (hskip : application.skipAuthorization = true) :
    ∃ created, event = .create created ∧ application = mcpApplicationRow created := by
  cases event with
  | create created => exact ⟨created, rfl, hwrites⟩
  | delete _ => exact absurd hwrites id
  | provision provisioned sender usingAlias =>
    obtain ⟨-, client, -, rfl⟩ := hwrites
    exact absurd hskip (by simp [cloudApplicationRow])
  | register registering faults env request =>
    obtain ⟨registration, -, rfl⟩ := hwrites
    exact absurd hskip (by simp [applicationRow])
  | elsewhere _ => exact absurd hwrites id

end History

/-! ## An example -/

/-- A toolkit that matches redirects exactly. -/
def exactToolkit : Toolkit where
  isUsable _ := true
  defaultRedirectUri := List.head?
  redirectToUriAllowed uri uris := uri ∈ uris
  validateScopes _ := true

/-- A registered client sends the user here. -/
def registeredRequest : AuthorizeRequest where
  user := cohortUser
  clientId := newClientId exampleSettings exampleRegisterEnv
  redirectUri := some (lit "http://127.0.0.1:3456/callback")
  scopes := [lit "mcp:sql"]

end McpSql
