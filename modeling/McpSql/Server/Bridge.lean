import Mathlib.Logic.Function.Basic
import McpSql.Auth.Issuance
import McpSql.Executor.Tools
import McpSql.Foundations.Guest

/-!
# The WSGI bridge

`_invoke_wsgi_app` and the response side of `mcp_endpoint` (`views/mcp_endpoint.py`).  The bridged
application is any program: it may call `start_response` as often as it likes, from the call, from
the iteration of its body or from `close`, and raise anywhere.  What it is given of the request is
the same for all requests that agree on the keys that cross, and what becomes of its calls is decided
by the last of them.
-/

namespace McpSql

open Python PyStr Effect

/-! ## The environ -/

/-- A byte string. -/
abbrev Bytes := List UInt8

/-- A value of a WSGI environ: a text, a stream at the start of its bytes, or another object. -/
inductive EnvironValue where
  | text (s : PyStr)
  | stream (bytes : Bytes)
  | object (id : ℕ)
  deriving DecidableEq, Repr

/-- A WSGI environ. -/
abbrev Environ := PyStr → Option EnvironValue

/-- `_WSGI_ENVIRON_ALLOWLIST`. -/
def wsgiEnvironAllowlist : List PyStr :=
  [lit "REQUEST_METHOD", lit "SCRIPT_NAME", lit "PATH_INFO", lit "QUERY_STRING", lit "CONTENT_TYPE",
    lit "CONTENT_LENGTH", lit "SERVER_NAME", lit "SERVER_PORT", lit "SERVER_PROTOCOL",
    lit "REMOTE_ADDR", lit "HTTP_HOST", lit "HTTP_ACCEPT", lit "HTTP_MCP_SESSION_ID",
    lit "HTTP_LAST_EVENT_ID"]

/-- The keys the comprehension of `_invoke_wsgi_app` keeps. -/
def crosses (key : PyStr) : Bool :=
  wsgiEnvironAllowlist.contains key || startsWith (lit "wsgi.") key

/-- A Django request: `META`, and the body that authentication has cached. -/
structure HttpRequest where
  environ : Environ
  body : Bytes

/-- The environ the bridged application is called with. -/
def HttpRequest.wsgiEnviron (request : HttpRequest) : Environ :=
  let environ : Environ := fun key => if crosses key then request.environ key else none
  let environ := Function.update environ (lit "wsgi.input") (some (.stream request.body))
  let environ := Function.update environ (lit "CONTENT_LENGTH")
    (some (.text (PyStr.ofNat request.body.length)))
  let environ := Function.update environ (lit "SCRIPT_NAME") (some (.text (lit "/mcp/sql")))
  Function.update environ (lit "PATH_INFO") (some (.text (lit "/mcp")))

/-! ## The application -/

/-- A call of `start_response`. -/
structure StartResponse where
  status : PyStr
  headers : List (PyStr × PyStr)
  deriving DecidableEq, Repr

/-- A part of a WSGI application, on a world `ω`. -/
abbrev WsgiPart (ω α : Type) := Guest ω StartResponse Unit PyExc α

/-- What a WSGI application returns: the iteration of its body, and `close` when it has one. -/
structure BodyIter (ω : Type) where
  chunks : WsgiPart ω (List Bytes)
  close : Option (WsgiPart ω Unit)

/-- A WSGI application. -/
abbrev WsgiApp (ω : Type) := Environ → WsgiPart ω (BodyIter ω)

/-- The variables `start_response` assigns. -/
structure Captured where
  statusCode : ℤ := 500
  responseHeaders : List (PyStr × PyStr) := []
  deriving DecidableEq, Repr

section

variable [UnicodeDatabase]

/-- The `ValueError` of `int(s)`. -/
def intError (s : PyStr) : PyExc :=
  match readSigned s with
  | none => .valueError (lit "invalid literal for int() with base 10: " ++ PyStr.repr s)
  | some (_, digits) => .valueError (lit "Exceeds the limit (4300 digits) for integer string " ++
      lit "conversion: value has " ++ PyStr.ofNat digits.length ++
      lit " digits; use sys.set_int_max_str_digits() to increase the limit")

/-- `int(status.split(" ", 1)[0])`. -/
def statusCodeOf (status : PyStr) : Except PyExc ℤ :=
  match pyInt (partition 0x20 status).1 with
  | some n => .ok n
  | none => .error (intError (partition 0x20 status).1)

/-- `start_response`. -/
def startResponse (query : StartResponse) : EStateM PyExc Captured Unit := do
  let n ← call (statusCodeOf query.status)
  set (⟨n, query.headers⟩ : Captured)

end

/-! ## The response -/

/-- `HttpResponse`, with its headers in the order of their first assignment. -/
structure HttpResponse where
  statusCode : ℤ
  headers : List (PyStr × PyStr)
  content : Bytes
  deriving DecidableEq, Repr

/-- Header names are compared without case. -/
def sameName (name name' : PyStr) : Bool := name.map asciiLower == name'.map asciiLower

/-- A header is stored under its name in lower case. -/
def storeHeader (headers : List (PyStr × PyStr)) (header : PyStr × PyStr) :
    List (PyStr × PyStr) :=
  if headers.any (sameName ·.1 header.1) then
    headers.map fun old => if sameName old.1 header.1 then header else old
  else headers ++ [header]

/-- The value of a header. -/
def getHeader (headers : List (PyStr × PyStr)) (name : PyStr) : Option PyStr :=
  (headers.find? (sameName ·.1 name)).map Prod.snd

/-- What the response class of Django brings: the default content type, and the conversion of a name
and a value to the character sets of headers. -/
structure ResponseClass where
  contentType : PyStr
  convert : PyStr × PyStr → Except PyExc (PyStr × PyStr)

/-- `HttpResponse(content, status=status)`. -/
def httpResponse (django : ResponseClass) (content : Bytes) (status : ℤ) :
    Except PyExc HttpResponse :=
  if 100 ≤ status ∧ status ≤ 599 then
    .ok ⟨status, [(lit "Content-Type", django.contentType)], content⟩
  else .error (.valueError (lit "HTTP status code must be an integer from 100 to 599."))

/-- `response[key] = value`. -/
def setHeader (django : ResponseClass) (response : HttpResponse) (header : PyStr × PyStr) :
    Except PyExc HttpResponse := do
  let header ← django.convert header
  return { response with headers := storeHeader response.headers header }

/-- The response of the captured variables. -/
def respond (django : ResponseClass) (captured : Captured) (content : Bytes) :
    Except PyExc HttpResponse := do
  let response ← httpResponse django content captured.statusCode
  captured.responseHeaders.foldlM (setHeader django) response

section

variable [UnicodeDatabase] {ω : Type}

/-- `_invoke_wsgi_app`, from the definition of `start_response` on. -/
def bridge (django : ResponseClass) (app : WsgiApp ω) (request : HttpRequest) :
    EStateM PyExc (ω × Captured) HttpResponse := do
  let bodyIter ← Guest.serve startResponse (app request.wsgiEnviron)
  let chunks ← Effect.finallyDo (Guest.serve startResponse bodyIter.chunks)
    (match bodyIter.close with
    | some close => Guest.serve startResponse close
    | none => pure ())
  call (respond django (← get).2 chunks.flatten)

/-- `_invoke_wsgi_app`. -/
def invokeWsgiApp (django : ResponseClass) (app : WsgiApp ω) (request : HttpRequest) :
    EStateM PyExc ω HttpResponse :=
  withLocals {} (bridge django app request)

end

/-! ## What crosses -/

/-- The keys of the environ that are assigned after the comprehension. -/
def rewrittenKeys : List PyStr :=
  [lit "wsgi.input", lit "CONTENT_LENGTH", lit "SCRIPT_NAME", lit "PATH_INFO"]

/-- The requests have the same body and agree on the keys that cross and are not assigned. -/
structure SeenAlike (request request' : HttpRequest) : Prop where
  body : request.body = request'.body
  environ : ∀ key, crosses key = true → key ∉ rewrittenKeys →
    request.environ key = request'.environ key

/-- The application cannot tell such requests apart. -/
theorem SeenAlike.wsgiEnviron {request request' : HttpRequest} (h : SeenAlike request request') :
    request.wsgiEnviron = request'.wsgiEnviron := by
  funext key
  unfold HttpRequest.wsgiEnviron
  rw [h.body]
  by_cases hrewritten : key ∈ rewrittenKeys
  · simp only [rewrittenKeys, List.mem_cons, List.not_mem_nil, or_false] at hrewritten
    rcases hrewritten with rfl | rfl | rfl | rfl <;> simp [Function.update_apply]
  · have hkey := hrewritten
    simp only [rewrittenKeys, List.mem_cons, List.not_mem_nil, or_false, not_or] at hkey
    obtain ⟨hinput, hlength, hscript, hpath⟩ := hkey
    simp only [Function.update_of_ne hinput, Function.update_of_ne hlength,
      Function.update_of_ne hscript, Function.update_of_ne hpath]
    split
    · next hcrosses => exact h.environ key hcrosses hrewritten
    · rfl

/-- A key that does not cross is not in the environ. -/
theorem wsgiEnviron_of_not_crosses (request : HttpRequest) {key : PyStr}
    (h : crosses key = false) : request.wsgiEnviron key = none := by
  have hne : ∀ rewritten ∈ rewrittenKeys, key ≠ rewritten := by
    rintro rewritten hmem rfl
    have hall : rewrittenKeys.all crosses = true := by decide
    rw [List.all_eq_true.mp hall key hmem] at h
    exact absurd h (by simp)
  unfold HttpRequest.wsgiEnviron
  rw [Function.update_of_ne (hne _ (by simp [rewrittenKeys])),
    Function.update_of_ne (hne _ (by simp [rewrittenKeys])),
    Function.update_of_ne (hne _ (by simp [rewrittenKeys])),
    Function.update_of_ne (hne _ (by simp [rewrittenKeys])), h]
  rfl

/-- The headers of the allowlist, without `HTTP_`. -/
def forwardedHeaders : List PyStr :=
  [lit "HOST", lit "ACCEPT", lit "MCP_SESSION_ID", lit "LAST_EVENT_ID"]

/-- Of the headers of a request, four cross. -/
theorem crosses_http_iff (name : PyStr) :
    crosses (lit "HTTP_" ++ name) = true ↔ name ∈ forwardedHeaders := by
  have hlist : wsgiEnvironAllowlist.all (fun key =>
      !startsWith (lit "HTTP_") key || forwardedHeaders.contains (key.drop 5)) = true := by
    decide
  have hwsgi : startsWith (lit "wsgi.") (lit "HTTP_" ++ name) = false := rfl
  unfold crosses
  rw [hwsgi, Bool.or_false, List.contains_iff_mem]
  constructor
  · intro hmem
    have hkey := List.all_eq_true.mp hlist _ hmem
    have hdrop : (lit "HTTP_" ++ name).drop 5 = name := List.drop_left' rfl
    rw [startsWith_append, hdrop] at hkey
    simpa using hkey
  · intro hmem
    simp only [forwardedHeaders, List.mem_cons, List.not_mem_nil, or_false] at hmem
    rcases hmem with rfl | rfl | rfl | rfl <;> decide

/-! ## The endpoint -/

/-- A text of the environ. -/
def HttpRequest.text (request : HttpRequest) (key : PyStr) : Option PyStr :=
  match request.environ key with
  | some (.text s) => some s
  | _ => none

/-- What authentication reads of a request. -/
def HttpRequest.mcpRequest (request : HttpRequest) : McpRequest where
  contentLength := request.text (lit "CONTENT_LENGTH")
  authorization := request.text (lit "HTTP_AUTHORIZATION")
  remoteAddr := request.text (lit "REMOTE_ADDR")

/-- The same user, profile, token and redirect URI. -/
structure SamePrincipal (passed passed' : Authenticated) : Prop where
  user : passed.user = passed'.user
  profile : passed.mcpProfile = passed'.mcpProfile
  token : passed.token.pk = passed'.token.pk
  redirect : passed.token.application.redirectUris = passed'.token.application.redirectUris

/-- Requests that are seen alike come from the same address. -/
theorem SeenAlike.remoteAddr {request request' : HttpRequest} (h : SeenAlike request request') :
    request.mcpRequest.remoteAddr = request'.mcpRequest.remoteAddr := by
  have haddr := h.environ (lit "REMOTE_ADDR") (by decide) (by decide)
  unfold HttpRequest.mcpRequest HttpRequest.text
  rw [haddr]

theorem endpointPrincipal_eq {request request' : HttpRequest} {passed passed' : Authenticated}
    (h : SeenAlike request request') (hsame : SamePrincipal passed passed') :
    endpointPrincipal request.mcpRequest passed = endpointPrincipal request'.mcpRequest passed' := by
  unfold endpointPrincipal
  rw [hsame.user, hsame.profile, hsame.token, hsame.redirect, h.remoteAddr]

/-- What authentication has at hand. -/
structure AuthContext where
  settings : Settings
  faults : CacheFaults
  env : AuthEnv

section

variable [UnicodeDatabase]

/-- Authenticate a request. -/
def AuthContext.authenticate (auth : AuthContext) (request : HttpRequest) :
    Py (Option Authenticated) :=
  McpSql.authenticate auth.settings auth.faults auth.env request.mcpRequest

/-- `mcp_endpoint` with the server it builds for a principal; without authentication the framework
answers by itself. -/
def mcpEndpointResponse (auth : AuthContext) (django : ResponseClass)
    (server : Principal → WsgiApp World) (request : HttpRequest) : Py (Option HttpResponse) := do
  match ← auth.authenticate request with
  | none => return none
  | some passed =>
    some <$> invokeWsgiApp django (server (endpointPrincipal request.mcpRequest passed)) request

/-- What the endpoint does after a successful authentication. -/
theorem run_mcpEndpointResponse {auth : AuthContext} {django : ResponseClass}
    {server : Principal → WsgiApp World} {request : HttpRequest} {w v : World}
    {passed : Authenticated} (h : (auth.authenticate request).run w = .ok (some passed) v) :
    (mcpEndpointResponse auth django server request).run w =
      (some <$> invokeWsgiApp django (server (endpointPrincipal request.mcpRequest passed))
        request).run v := by
  unfold mcpEndpointResponse
  rw [EStateM.run_bind, h]

/-- The bridged server learns nothing of a request but its principal, its body and the keys that
cross. -/
theorem endpoint_confined (django : ResponseClass) (server : Principal → WsgiApp World) :
    (∀ (request : HttpRequest) (name : PyStr), name ∉ forwardedHeaders →
      request.wsgiEnviron (lit "HTTP_" ++ name) = none) ∧
    (∀ (auth auth' : AuthContext) (request request' : HttpRequest) (w w' v : World)
      (passed passed' : Authenticated), SeenAlike request request' → SamePrincipal passed passed' →
      (auth.authenticate request).run w = .ok (some passed) v →
      (auth'.authenticate request').run w' = .ok (some passed') v →
      (mcpEndpointResponse auth django server request).run w =
        (mcpEndpointResponse auth' django server request').run w') ∧
    ∀ (auth : AuthContext) (request : HttpRequest) (w : World),
      (∀ passed v, (auth.authenticate request).run w ≠ .ok (some passed) v) →
      ∀ server', (mcpEndpointResponse auth django server' request).run w =
        (mcpEndpointResponse auth django server request).run w ∧
      ∀ response v, (mcpEndpointResponse auth django server request).run w ≠
        .ok (some response) v := by
  refine ⟨fun request name hname => ?_, ?_, fun auth request w hrefused server' => ?_⟩
  · refine wsgiEnviron_of_not_crosses request ?_
    rw [← Bool.not_eq_true, crosses_http_iff]
    exact hname
  · intro auth auth' request request' w w' v passed passed' hseen hsame hpassed hpassed'
    rw [run_mcpEndpointResponse hpassed, run_mcpEndpointResponse hpassed',
      endpointPrincipal_eq hseen hsame]
    unfold invokeWsgiApp bridge
    rw [hseen.wsgiEnviron]
  · unfold mcpEndpointResponse
    rw [EStateM.run_bind, EStateM.run_bind]
    cases hrun : (auth.authenticate request).run w with
    | ok answer v =>
      cases answer with
      | none => exact ⟨rfl, by simp⟩
      | some passed => exact absurd hrun (hrefused passed v)
    | error e v => exact ⟨rfl, by simp⟩

/-- A request of `cohortUser`, with whatever the client sends beside the token. -/
def cohortRequest (authorization cookie : PyStr) : HttpRequest where
  environ key :=
    if key = lit "HTTP_AUTHORIZATION" then some (.text authorization)
    else if key = lit "HTTP_COOKIE" then some (.text cookie)
    else if key = lit "REMOTE_ADDR" then some (.text (lit "203.0.113.7"))
    else none
  body := []

end

/-- A server that answers with nothing. -/
def silentServer (_ : Principal) : WsgiApp World := fun _ =>
  .ask ⟨lit "202 Accepted", []⟩ fun _ => .done (.ok ⟨.done (.ok []), none⟩)

/-- The response class with the default content type. -/
def plainResponses : ResponseClass where
  contentType := lit "text/html; charset=utf-8"
  convert header := .ok header

theorem body_cohortRequest (authorization cookie : PyStr) :
    (cohortRequest authorization cookie).body = [] := rfl

/-- The settings, the cache and the outside of `cohortUser`. -/
def cohortContext : AuthContext where
  settings := exampleSettings
  faults := healthyCache
  env := cohortTokenEnv

theorem mcpRequest_cohortRequest (authorization cookie : PyStr) :
    (cohortRequest authorization cookie).mcpRequest =
      ⟨none, some authorization, some (lit "203.0.113.7")⟩ := by
  have hlength : (cohortRequest authorization cookie).environ (lit "CONTENT_LENGTH") = none := by
    unfold cohortRequest
    simp only
    rw [if_neg (by decide), if_neg (by decide), if_neg (by decide)]
  have haddr : (cohortRequest authorization cookie).environ (lit "REMOTE_ADDR") =
      some (.text (lit "203.0.113.7")) := by
    unfold cohortRequest
    simp only
    rw [if_neg (by decide), if_neg (by decide), if_pos trivial]
  have hheader : (cohortRequest authorization cookie).environ (lit "HTTP_AUTHORIZATION") =
      some (.text authorization) := by
    unfold cohortRequest
    simp only [if_true]
  unfold HttpRequest.mcpRequest HttpRequest.text
  rw [hlength, hheader, haddr]

/-- `cohortUser` with the one profile. -/
def cohortPassed : Authenticated where
  user := cohortUser
  token := cohortToken
  mcpProfile := ⟨lit "default", lit "mcp_readonly_role", lit "use_mcp_session", lit "mcp_sql_users",
    [lit "notes.Note"], none⟩

/-- The token is accepted whatever it looks like. -/
theorem authenticate_cohortRequest (c : CodePoint) (rest cookie : PyStr) :
    let _ := asciiDatabase
    (cohortContext.authenticate (cohortRequest (c :: rest) cookie)).run emptyWorld =
      .ok (some cohortPassed) emptyWorld := by
  let _ := asciiDatabase
  unfold AuthContext.authenticate
  rw [mcpRequest_cohortRequest]
  rfl

theorem endpoint_confined_cohort :
    let _ := asciiDatabase
    let respond := fun request =>
      (mcpEndpointResponse cohortContext plainResponses silentServer request).run emptyWorld
    respond (cohortRequest (lit "Bearer token") (lit "sessionid=1")) =
      respond (cohortRequest (lit "Bearer other") []) := by
  let _ := asciiDatabase
  have hseen : SeenAlike (cohortRequest (lit "Bearer token") (lit "sessionid=1"))
      (cohortRequest (lit "Bearer other") []) := by
    refine ⟨by rw [body_cohortRequest, body_cohortRequest], fun key hcrosses _ => ?_⟩
    have hneither : crosses (lit "HTTP_AUTHORIZATION") = false ∧
        crosses (lit "HTTP_COOKIE") = false := by
      decide +kernel
    have hauthorization : key ≠ lit "HTTP_AUTHORIZATION" := by
      rintro rfl
      rw [hneither.1] at hcrosses
      exact absurd hcrosses (by simp)
    have hcookie : key ≠ lit "HTTP_COOKIE" := by
      rintro rfl
      rw [hneither.2] at hcrosses
      exact absurd hcrosses (by simp)
    unfold cohortRequest
    simp only
    rw [if_neg hauthorization, if_neg hcookie, if_neg hauthorization, if_neg hcookie]
  exact (endpoint_confined plainResponses silentServer).2.1 cohortContext cohortContext _ _ emptyWorld
    emptyWorld emptyWorld _ _ hseen ⟨rfl, rfl, rfl, rfl⟩
    (authenticate_cohortRequest _ _ _) (authenticate_cohortRequest _ _ _)

end McpSql
