import McpSql.Conf
import McpSql.Python.Json
import McpSql.Python.UrlParse
import McpSql.Throttle

/-!
# `register_client`

Dynamic client registration (`views/registration.py`): the validation of a request body, and the
throttled creation of the `Application` row.
-/

namespace McpSql

open Python PyStr Effect

/-- `django.http.JsonResponse`. -/
structure JsonResponse where
  status : ℕ
  body : Json

/-- A registration request.  `body` is what `json.loads(request.body)` returns or raises. -/
structure RegisterRequest where
  body : Except PyExc Json
  remoteAddr : Option PyStr
  registrationUri : PyStr

/-- What a registration reads from outside: the random token, the clock, and the database's answer
to the insert. -/
structure RegisterEnv where
  tokenUrlsafe : PyStr
  timestamp : ℕ
  create : Application → Except PyExc Unit

/-- What a valid body asks for. -/
structure Registration where
  redirectUris : List PyStr
  clientName : Json

/-- `_error`. -/
def registrationError (code description : PyStr) : JsonResponse where
  status := 400
  body := .obj [(lit "error", .str code), (lit "error_description", .str description)]

/-- `_registration_response`. -/
def registrationResponse (env : RegisterEnv) (request : RegisterRequest) (clientId : PyStr)
    (registration : Registration) : JsonResponse where
  status := 201
  body := .obj
    [(lit "client_id", .str clientId),
      (lit "client_id_issued_at", .int env.timestamp),
      (lit "client_name", registration.clientName),
      (lit "redirect_uris", .arr (registration.redirectUris.map .str)),
      (lit "grant_types", .arr [.str (lit "authorization_code")]),
      (lit "response_types", .arr [.str (lit "code")]),
      (lit "token_endpoint_auth_method", .str (lit "none")),
      (lit "registration_client_uri", .str request.registrationUri)]

/-- `_LOOPBACK_HOSTS`. -/
def loopbackHosts : List PyStr := [lit "127.0.0.1", lit "::1", lit "localhost"]

section Validation

variable [UnicodeDatabase]

/-- `_is_loopback_redirect`. -/
def isLoopbackRedirect (uri : PyStr) : Except PyExc Bool :=
  match urlparse uri with
  | none => .error (.valueError (urlsplitError uri))
  | some parsed =>
    if parsed.scheme ≠ lit "http" then .ok false
    else if (parsed.username.getD []) ≠ [] ∨ (parsed.password.getD []) ≠ [] then .ok false
    else .ok (parsed.hostname.any (· ∈ loopbackHosts))

/-- The loop over `redirect_uris`: the URIs, or the first entry that is refused. -/
def checkRedirectUris : List Json → Except PyExc (Json ⊕ List PyStr)
  | [] => .ok (.inr [])
  | entry :: rest =>
    match entry.asStr with
    | none => .ok (.inl entry)
    | some uri => do
      if ← isLoopbackRedirect uri then
        match ← checkRedirectUris rest with
        | .inl refused => return .inl refused
        | .inr uris => return .inr (uri :: uris)
      else return .inl entry

/-- The `TypeError` of `in` on a value that is no container. -/
def notIterable (value : Json) : PyExc :=
  .typeError (lit "argument of type '" ++ value.typeName ++ lit "' is not iterable")

/-- `needle not in value`. -/
def notIn (needle : PyStr) (value : Json) : Except PyExc Bool :=
  match value.hasMember needle with
  | some found => .ok (!found)
  | none => .error (notIterable value)

/-- The checks on `grant_types`, `response_types` and `token_endpoint_auth_method`: the error
response of the first that fails. -/
def checkMetadata (fields : List (PyStr × Json)) : Except PyExc (Option JsonResponse) := do
  let grantTypes := (Json.get fields (lit "grant_types")).getD
    (.arr [.str (lit "authorization_code")])
  if ← notIn (lit "authorization_code") grantTypes then
    return some (registrationError (lit "invalid_client_metadata")
      (lit "grant_types must include 'authorization_code'"))
  let responseTypes := (Json.get fields (lit "response_types")).getD (.arr [.str (lit "code")])
  if ← notIn (lit "code") responseTypes then
    return some (registrationError (lit "invalid_client_metadata")
      (lit "response_types must include 'code'"))
  let authMethod := (Json.get fields (lit "token_endpoint_auth_method")).getD (.str (lit "none"))
  if ¬authMethod.isStr (lit "none") then
    return some (registrationError (lit "invalid_client_metadata")
      (lit "Only token_endpoint_auth_method='none' is supported (public client)"))
  return none

/-- `body.get("client_name") or "Unnamed MCP client"`. -/
def clientName (fields : List (PyStr × Json)) : Json :=
  let name := (Json.get fields (lit "client_name")).getD .null
  if name.truthy then name else .str (lit "Unnamed MCP client")

/-- The error for an entry of `redirect_uris` that is no loopback URI. -/
def redirectUriError (refused : Json) : JsonResponse :=
  registrationError (lit "invalid_redirect_uri")
    (lit "redirect_uri " ++ refused.repr ++ lit " is not a loopback URI " ++
      lit "(must be http://127.0.0.1, http://[::1], or http://localhost " ++
      lit "with an optional port and path)")

/-- The checks of `register_client` on a decoded object. -/
def validateFields (fields : List (PyStr × Json)) : Except PyExc (JsonResponse ⊕ Registration) :=
  match Json.get fields (lit "redirect_uris") with
  | some (.arr (entry :: rest)) => do
    match ← checkRedirectUris (entry :: rest) with
    | .inl refused => return .inl (redirectUriError refused)
    | .inr redirectUris =>
      match ← checkMetadata fields with
      | some response => return .inl response
      | none => return .inr ⟨redirectUris, clientName fields⟩
  | _ => return .inl (registrationError (lit "invalid_redirect_uri")
      (lit "redirect_uris must be a non-empty array of URI strings"))

/-- The part of `register_client` before the throttle: an error response, or what to register. -/
def validateRegistration (body : Except PyExc Json) :
    Except PyExc (JsonResponse ⊕ Registration) :=
  match body with
  | .error (.jsonDecodeError _) => .ok (.inl (registrationError (lit "invalid_client_metadata")
      (lit "Request body is not valid JSON")))
  | .error e => .error e
  | .ok (.obj fields) => validateFields fields
  | .ok _ => .ok (.inl (registrationError (lit "invalid_client_metadata")
      (lit "Request body must be a JSON object")))

end Validation

/-- The row `register_client` creates. -/
def applicationRow (clientId : PyStr) (registration : Registration) : Application where
  name := clientId
  clientId := clientId
  clientSecret := []
  clientType := lit "public"
  authorizationGrantType := lit "authorization-code"
  skipAuthorization := false
  redirectUris := joinSpace registration.redirectUris
  algorithm := []

/-- `Application.objects.create`. -/
def createApplication (env : RegisterEnv) (row : Application) : Py Unit := do
  call (env.create row)
  modify fun w => { w with applications := w.applications ++ [row] }

/-- The `client_id` of a new client. -/
def newClientId (settings : Settings) (env : RegisterEnv) : PyStr :=
  settings.applicationNamePrefix ++ env.tokenUrlsafe

/-- The registration of a client whose IP is not blocked: create the row, then count. -/
def createAndCount (settings : Settings) (faults : CacheFaults) (env : RegisterEnv) (ip : PyStr)
    (row : Application) (response : JsonResponse) : Py JsonResponse := do
  createApplication env row
  let _ ← recordAttempt faults ip (lit "register") settings.badTokenIpWindowSeconds
    settings.badTokenIpThreshold
  return response

/-- The part of `register_client` after validation. -/
def storeRegistration (settings : Settings) (faults : CacheFaults) (env : RegisterEnv)
    (request : RegisterRequest) (registration : Registration) : Py JsonResponse := do
  let clientId := newClientId settings env
  let ip := throttleIp request.remoteAddr
  let response := registrationResponse env request clientId registration
  if ← isIpBlocked faults ip (lit "register") settings.badTokenIpThreshold then
    return response
  createAndCount settings faults env ip (applicationRow clientId registration) response

/-- `register_client`. -/
def registerClient [UnicodeDatabase] (settings : Settings) (faults : CacheFaults)
    (env : RegisterEnv) (request : RegisterRequest) : Py JsonResponse :=
  match validateRegistration request.body with
  | .error e => raise e
  | .ok (.inl response) => pure response
  | .ok (.inr registration) => storeRegistration settings faults env request registration

/-! ## The rows a request adds -/

/-- Creating and counting adds the row, or nothing when the insert fails. -/
theorem applications_createAndCount (settings : Settings) (faults : CacheFaults)
    (env : RegisterEnv) (ip : PyStr) (row : Application) (response : JsonResponse) (w : World) :
    (finalState ((createAndCount settings faults env ip row response).run w)).applications =
      w.applications ++ if env.create row = .ok () then [row] else [] := by
  unfold createAndCount createApplication
  cases hcreate : env.create row with
  | error e => simp
  | ok u =>
    obtain ⟨cache, log, hcount⟩ := keeps_recordAttempt faults ip (lit "register")
      settings.badTokenIpWindowSeconds settings.badTokenIpThreshold
      { w with applications := w.applications ++ [row] }
    simp only [EStateM.run_bind, run_call_ok, EStateM.run_modify]
    cases hrun : (recordAttempt faults ip (lit "register") settings.badTokenIpWindowSeconds
        settings.badTokenIpThreshold).run { w with applications := w.applications ++ [row] } with
    | ok count w' =>
      rw [hrun, finalState_ok] at hcount
      simp [hcount]
    | error e w' =>
      rw [hrun, finalState_error] at hcount
      simp [hcount]

/-- After validation: the block check, then the insert. -/
theorem run_storeRegistration (settings : Settings) (faults : CacheFaults) (env : RegisterEnv)
    (request : RegisterRequest) (registration : Registration) (w : World) :
    (storeRegistration settings faults env request registration).run w =
      match (isIpBlocked faults (throttleIp request.remoteAddr) (lit "register")
        settings.badTokenIpThreshold).run w with
      | .ok true w' => .ok
          (registrationResponse env request (newClientId settings env) registration) w'
      | .ok false w' => (createAndCount settings faults env (throttleIp request.remoteAddr)
          (applicationRow (newClientId settings env) registration)
          (registrationResponse env request (newClientId settings env) registration)).run w'
      | .error e w' => .error e w' := by
  unfold storeRegistration
  rw [EStateM.run_bind]
  cases (isIpBlocked faults (throttleIp request.remoteAddr) (lit "register")
      settings.badTokenIpThreshold).run w with
  | error e w' => rfl
  | ok blocked w' => cases blocked <;> rfl

/-- A request adds its own row or nothing, whatever becomes of it. -/
theorem applications_storeRegistration (settings : Settings) (faults : CacheFaults)
    (env : RegisterEnv) (request : RegisterRequest) (registration : Registration) (w : World) :
    (finalState ((storeRegistration settings faults env request registration).run w)).applications
        = w.applications ∨
      (finalState ((storeRegistration settings faults env request registration).run
          w)).applications =
        w.applications ++ [applicationRow (newClientId settings env) registration] := by
  have hcreate := applications_createAndCount settings faults env (throttleIp request.remoteAddr)
    (applicationRow (newClientId settings env) registration)
    (registrationResponse env request (newClientId settings env) registration) w
  have hcases : ∀ {applications : List Application}, applications = w.applications ++
        (if env.create (applicationRow (newClientId settings env) registration) = .ok () then
          [applicationRow (newClientId settings env) registration] else []) →
      applications = w.applications ∨ applications =
        w.applications ++ [applicationRow (newClientId settings env) registration] := by
    intro applications happlications
    split_ifs at happlications
    · exact Or.inr happlications
    · exact Or.inl (by simpa using happlications)
  rw [run_storeRegistration, run_isIpBlocked]
  cases hfault : faults .blockGet with
  | none =>
    by_cases hblocked : settings.badTokenIpThreshold ≤
        w.cache.count (ipKey (lit "register") (throttleIp request.remoteAddr))
    · simp [hblocked]
    · simpa [hblocked] using hcases hcreate
  | some fault =>
    by_cases hcaught : isOutage fault.exc = true
    · simpa [hcaught] using hcases hcreate
    · simp [hcaught]

/-! ## Examples -/

/-- A database that stores every application. -/
def exampleRegisterEnv : RegisterEnv where
  tokenUrlsafe := lit "AAAAAAAAAAAAAAAAAAAAAA"
  timestamp := 0
  create _ := .ok ()

/-- A registration of one redirect URI. -/
def registrationOf (uri : String) : RegisterRequest where
  body := .ok (.obj [(lit "redirect_uris", .arr [.str (lit uri)])])
  remoteAddr := some (lit "203.0.113.7")
  registrationUri := lit "https://example.org/o/register"

end McpSql
