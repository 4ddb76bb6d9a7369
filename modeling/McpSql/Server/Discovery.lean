import Mathlib.Data.Option.Basic
import McpSql.Python.JsonWire
import McpSql.Registration.Register
import McpSql.Server.Urls

/-!
# Discovery

The challenge of a 401 (`auth.py`), the two metadata documents (`views/discovery.py`), and the client
of the documented flow, which knows the URL of the resource and reads everything else from them.
-/

namespace McpSql

open Python PyStr

/-- The scheme of a URL. -/
inductive Scheme where
  | http
  | https
  deriving DecidableEq, Repr

/-- The text of a scheme. -/
def Scheme.text : Scheme → PyStr
  | .http => lit "http"
  | .https => lit "https"

/-- A character of a host that Django's validation lets through. -/
def isHostChar (c : CodePoint) : Bool :=
  isAsciiAlpha c || isAsciiDigit c || c = 0x2d || c = 0x2e || c = 0x3a || c = 0x5b || c = 0x5d

/-- What the views read: where the routes are mounted, the settings, and the validation of the host
with the exception it raises. -/
structure Site where
  mount : Mount
  debug : Bool
  resourceName : PyStr
  scope : PyStr
  allowed : PyStr → Bool
  disallowedHost : PyStr → PyExc
  hostChars : ∀ host, allowed host = true → ∀ c ∈ host, isHostChar c = true

/-- A request as Django sees it, behind the proxy. -/
structure WebRequest where
  scheme : Scheme
  host : PyStr
  deriving DecidableEq, Repr

/-- A response of the discovery views. -/
structure PublicDocument where
  response : JsonResponse
  headers : List (PyStr × PyStr)

/-- What a view behind `require_safe` answers. -/
inductive SafeAnswer where
  | document (document : PublicDocument)
  /-- `HttpResponseNotAllowed`, with the methods of its `Allow` header. -/
  | notAllowed (methods : List PyStr)

/-! ## The views -/

/-- `request.get_host()`. -/
def getHost (site : Site) (request : WebRequest) : Except PyExc PyStr :=
  if site.allowed request.host then .ok request.host else .error (site.disallowedHost request.host)

/-- The scheme and the host of a URL. -/
def origin (scheme : Scheme) (host : PyStr) : PyStr := scheme.text ++ (lit "://" ++ host)

/-- `request.build_absolute_uri(reverse(name))`.  The path has no character to quote, no dot segment
and no host of its own, so that it is put behind the host as it is. -/
def absoluteUri (site : Site) (request : WebRequest) (name : PyStr) : Except PyExc PyStr :=
  match reverse site.mount name with
  | none => .error (.otherException (lit "NoReverseMatch") (some (lit "Reverse for '" ++ name ++
      lit "' not found. '" ++ name ++ lit "' is not a valid view function or pattern name.")))
  | some path => do
    let host ← getHost site request
    return origin request.scheme host ++ path

/-- `_issuer`. -/
def issuer (site : Site) (request : WebRequest) : Except PyExc PyStr := do
  let scheme := if site.debug then request.scheme else .https
  let host ← getHost site request
  return origin scheme host ++ lit "/o"

/-- `_cors`. -/
def cors (response : JsonResponse) : PublicDocument :=
  ⟨response, [(lit "Access-Control-Allow-Origin", lit "*"),
    (lit "Access-Control-Allow-Methods", lit "GET, HEAD")]⟩

/-- The members of the resource's document. -/
def resourceFields (site : Site) (resource server : PyStr) : List (PyStr × Json) :=
  [(lit "resource", .str resource),
    (lit "resource_name", .str site.resourceName),
    (lit "authorization_servers", .arr [.str server]),
    (lit "scopes_supported", .arr [.str site.scope]),
    (lit "bearer_methods_supported", .arr [.str (lit "header")])]

/-- `protected_resource_metadata`. -/
def protectedResourceMetadata (site : Site) (request : WebRequest) : Except PyExc PublicDocument := do
  let resource ← absoluteUri site request (lit "mcp_sql_endpoint")
  let server ← issuer site request
  return cors ⟨200, .obj (resourceFields site resource server)⟩

/-- The members of the authorization server's document. -/
def serverFields (site : Site) (server authorize token revoke register : PyStr) :
    List (PyStr × Json) :=
  [(lit "issuer", .str server),
    (lit "authorization_endpoint", .str authorize),
    (lit "token_endpoint", .str token),
    (lit "revocation_endpoint", .str revoke),
    (lit "registration_endpoint", .str register),
    (lit "scopes_supported", .arr [.str site.scope]),
    (lit "response_types_supported", .arr [.str (lit "code")]),
    (lit "grant_types_supported", .arr [.str (lit "authorization_code")]),
    (lit "code_challenge_methods_supported", .arr [.str (lit "S256")]),
    (lit "token_endpoint_auth_methods_supported", .arr [.str (lit "none")]),
    (lit "revocation_endpoint_auth_methods_supported", .arr [.str (lit "none")])]

/-- `authorization_server_metadata`. -/
def authorizationServerMetadata (site : Site) (request : WebRequest) :
    Except PyExc PublicDocument := do
  let server ← issuer site request
  let authorize ← absoluteUri site request (lit "authorize")
  let token ← absoluteUri site request (lit "token")
  let revoke ← absoluteUri site request (lit "revoke-token")
  let register ← absoluteUri site request (lit "oauth_dynamic_client_registration")
  return cors ⟨200, .obj (serverFields site server authorize token revoke register)⟩

/-- `require_safe`. -/
def requireSafe (method : PyStr) (view : Except PyExc PublicDocument) : Except PyExc SafeAnswer :=
  if method ∈ [lit "GET", lit "HEAD"] then view.map .document
  else .ok (.notAllowed [lit "GET", lit "HEAD"])

/-- A request of a metadata document. -/
def serveMetadata (site : Site) (method : PyStr) (request : WebRequest) :
    View → Option (Except PyExc SafeAnswer)
  | .protectedResourceMetadata => some (requireSafe method (protectedResourceMetadata site request))
  | .authorizationServerMetadata =>
    some (requireSafe method (authorizationServerMetadata site request))
  | _ => none

/-- `MCPOAuth2Authentication.authenticate_header`: the challenge of a 401. -/
def authenticateHeader (site : Site) (request : WebRequest) : Except PyExc PyStr := do
  let metadataUrl ← absoluteUri site request (lit "mcp_sql_protected_resource_metadata")
  return lit "Bearer realm=\"api\", resource_metadata=\"" ++ (metadataUrl ++ lit "\"")

/-! ## The client -/

/-- An absolute URL, taken apart. -/
structure ClientUrl where
  scheme : Scheme
  host : PyStr
  path : PyStr
  deriving DecidableEq, Repr

/-- Take a URL apart. -/
def splitUrl (url : PyStr) : Option ClientUrl :=
  let behind (scheme : Scheme) (rest : PyStr) : ClientUrl :=
    ⟨scheme, rest.takeWhile (· ≠ 0x2f), rest.dropWhile (· ≠ 0x2f)⟩
  if startsWith (lit "https://") url then some (behind .https (url.drop 8))
  else if startsWith (lit "http://") url then some (behind .http (url.drop 7))
  else none

/-- The quoted value of a parameter of a challenge. -/
def quotedParam (name : PyStr) : PyStr → Option PyStr
  | [] => none
  | c :: rest =>
    if startsWith (name ++ lit "=\"") (c :: rest) then
      some (((c :: rest).drop (name.length + 2)).takeWhile (· ≠ 0x22))
    else quotedParam name rest

/-- What lies between the client and the site: the scheme that the site is told, and the client's
reader of JSON. -/
structure Passage where
  seen : Scheme → Scheme
  reader : JsonReader

section Client

variable (site : Site) (passage : Passage)

/-- The metadata document that a URL serves. -/
def fetchMetadata (url : PyStr) : Option (List (PyStr × Json)) := do
  let target ← splitUrl url
  let view ← resolve site.mount target.path
  match serveMetadata site (lit "GET") ⟨passage.seen target.scheme, target.host⟩ view with
  | some (.ok (.document document)) =>
    match Json.decode passage.reader (Json.dumps true document.response.body) with
    | .ok (.obj fields) => some fields
    | _ => none
  | _ => none

/-- A field of a document that is a string. -/
def stringField (fields : List (PyStr × Json)) (name : PyStr) : Option PyStr :=
  (Json.get fields name).bind Json.asStr

/-- The first string in a field of a document that is an array. -/
def firstString (fields : List (PyStr × Json)) (name : PyStr) : Option PyStr :=
  match Json.get fields name with
  | some (.arr (x :: _)) => x.asStr
  | _ => none

/-- The URL of the metadata of an authorization server: the path of the issuer goes behind the
well-known path. -/
def serverMetadataUrl (issuer : PyStr) : Option PyStr :=
  (splitUrl issuer).map fun target => origin target.scheme target.host ++
    (lit "/.well-known/oauth-authorization-server" ++ target.path)

/-- What a client learns. -/
structure Discovered where
  resource : PyStr
  issuer : PyStr
  authorizationEndpoint : PyStr
  tokenEndpoint : PyStr
  revocationEndpoint : PyStr
  registrationEndpoint : PyStr
  deriving DecidableEq, Repr

/-- The client of the documented flow, from the URL of the resource.  It insists that the server's
document names the issuer it asked for. -/
def discover (start : ClientUrl) : Option Discovered := do
  let view ← resolve site.mount start.path
  guard (view = .mcpEndpoint)
  let challenge ← (authenticateHeader site ⟨passage.seen start.scheme, start.host⟩).toOption
  let url ← quotedParam (lit "resource_metadata") challenge
  let resource ← fetchMetadata site passage url
  let issuer ← firstString resource (lit "authorization_servers")
  let serverUrl ← serverMetadataUrl issuer
  let server ← fetchMetadata site passage serverUrl
  guard (stringField server (lit "issuer") = some issuer)
  return ⟨← stringField resource (lit "resource"), issuer,
    ← stringField server (lit "authorization_endpoint"), ← stringField server (lit "token_endpoint"),
    ← stringField server (lit "revocation_endpoint"),
    ← stringField server (lit "registration_endpoint")⟩

end Client

/-! ## Hosts and URLs -/

theorem of_isHostChar {c : CodePoint} (h : isHostChar c = true) : isUrlChar c = true ∧ c ≠ 0x2f := by
  have hslash : (0x2f : CodePoint).val = 0x2f := rfl
  have hquote : (0x22 : CodePoint).val = 0x22 := rfl
  unfold isUrlChar isAscii
  simp only [isHostChar, isAsciiAlpha, isAsciiDigit, Bool.or_eq_true, Bool.and_eq_true,
    decide_eq_true_eq, ne_eq, Fin.ext_iff] at h ⊢
  omega

/-- The text of a URL is taken apart into what it was made of. -/
theorem splitUrl_origin {host rest : PyStr} (h : ∀ c ∈ host, isHostChar c = true) (scheme : Scheme) :
    splitUrl (origin scheme host ++ 0x2f :: rest) = some ⟨scheme, host, 0x2f :: rest⟩ := by
  have hhost : ∀ c ∈ host, decide (c ≠ (0x2f : CodePoint)) = true :=
    fun c hc => decide_eq_true (of_isHostChar (h c hc)).2
  have htake : (host ++ 0x2f :: rest).takeWhile (· ≠ 0x2f) = host := by
    rw [List.takeWhile_append_of_pos hhost]
    simp
  have hdrop : (host ++ 0x2f :: rest).dropWhile (· ≠ 0x2f) = 0x2f :: rest := by
    rw [List.dropWhile_append_of_pos hhost]
    simp
  have hbehind : splitUrl (origin scheme host ++ 0x2f :: rest) = some ⟨scheme,
      (host ++ 0x2f :: rest).takeWhile (· ≠ 0x2f), (host ++ 0x2f :: rest).dropWhile (· ≠ 0x2f)⟩ := by
    cases scheme <;> rfl
  rw [hbehind, htake, hdrop]

/-- The URL of a scheme determines the scheme. -/
theorem origin_inj {host rest : PyStr} (h : ∀ c ∈ host, isHostChar c = true) {s s' : Scheme}
    (heq : origin s host ++ 0x2f :: rest = origin s' host ++ 0x2f :: rest) : s = s' := by
  have hsplit := congrArg splitUrl heq
  rw [splitUrl_origin h, splitUrl_origin h] at hsplit
  exact congrArg ClientUrl.scheme (Option.some.inj hsplit)

/-- A text of such characters has no pair of surrogates. -/
theorem noPair_of_all {s : PyStr} (h : s.all isUrlChar = true) : Json.NoPair s := by
  induction s with
  | nil => exact .nil
  | cons c s ih =>
    rw [List.all_cons, Bool.and_eq_true] at h
    refine List.isChain_cons.mpr ⟨fun d _ hpair => ?_, ih h.2⟩
    have hascii := (of_isUrlChar h.1).1
    have hhigh := hpair.1
    unfold isHighSurrogate at hhigh
    simp only [Bool.and_eq_true, decide_eq_true_eq] at hhigh
    omega

/-! ## What the views write -/

/-- A URL of the host that one of the views serves. -/
def Advertised (site : Site) (host url : PyStr) (view : View) : Prop :=
  ∃ scheme path, splitUrl url = some ⟨scheme, host, path⟩ ∧ resolve site.mount path = some view

/-- The scheme of the issuer. -/
def issuerScheme (site : Site) (scheme : Scheme) : Scheme := if site.debug then scheme else .https

section Views

variable {site : Site} {request : WebRequest}

theorem issuer_eq (hallowed : site.allowed request.host = true) : issuer site request =
    .ok (origin (issuerScheme site request.scheme) request.host ++ lit "/o") := by
  unfold issuer getHost
  rw [if_pos hallowed]
  rfl

theorem absoluteUri_eq (hallowed : site.allowed request.host = true) {p : UrlPattern}
    (hp : p ∈ urlpatterns) {name : PyStr} (hname : p.name = some name) :
    absoluteUri site request name =
      .ok (origin request.scheme request.host ++ site.mount.path p.route) := by
  unfold absoluteUri getHost
  rw [reverse_of_mem site.mount hp hname, if_pos hallowed]
  rfl

theorem all_origin {host : PyStr} (hallowed : site.allowed host = true) (scheme : Scheme) :
    (origin scheme host).all isUrlChar = true := by
  have hscheme : scheme.text.all isUrlChar = true := by cases scheme <;> decide
  have hslashes : (lit "://").all isUrlChar = true := by decide
  have hhost : host.all isUrlChar = true := List.all_eq_true.mpr fun c hc =>
    (of_isHostChar (site.hostChars host hallowed c hc)).1
  unfold origin
  rw [List.all_append, List.all_append, hscheme, hslashes, hhost]
  rfl

theorem noPair_issuer {host : PyStr} (hallowed : site.allowed host = true) (scheme : Scheme) :
    Json.NoPair (origin scheme host ++ lit "/o") := by
  have hpath : (lit "/o").all isUrlChar = true := by decide
  refine noPair_of_all ?_
  rw [List.all_append, all_origin hallowed scheme, hpath]
  rfl

/-- A named view has a URL, which leads back to it. -/
theorem exists_absoluteUri (hallowed : site.allowed request.host = true) {name : PyStr} {view : View}
    (h : ∃ p ∈ urlpatterns, p.name = some name ∧ p.view = view) :
    ∃ url path, absoluteUri site request name = .ok url ∧ url.all isUrlChar = true ∧
      splitUrl url = some ⟨request.scheme, request.host, path⟩ ∧
      resolve site.mount path = some view := by
  obtain ⟨p, hp, hname, rfl⟩ := h
  refine ⟨_, site.mount.path p.route, absoluteUri_eq hallowed hp hname, ?_,
    splitUrl_origin (site.hostChars request.host hallowed) request.scheme,
    resolve_of_mem site.mount hp⟩
  rw [List.all_append, all_origin hallowed, all_path site.mount hp]
  rfl

end Views

/-! ## What the client reads -/

/-- A member whose value is a string, or an array of one string. -/
def PlainField (field : PyStr × Json) : Prop :=
  ∃ s, Json.NoPair s ∧ (field.2 = .str s ∨ field.2 = .arr [.str s])

/-- The client reads a document of such members as it was written. -/
theorem decode_document {reader : JsonReader} {fields : List (PyStr × Json)} {keys : List PyStr}
    (hdepth : 2 ≤ reader.depth) (hkeys : fields.map Prod.fst = keys) (hnodup : keys.Nodup)
    (hplain : (keys.all fun key => key.all isUrlChar) = true) (h : ∀ f ∈ fields, PlainField f) :
    Json.decode reader (Json.dumps true (.obj fields)) = .ok (.obj fields) := by
  obtain ⟨k, hk⟩ : ∃ k, reader.depth = k + 2 := ⟨reader.depth - 2, by omega⟩
  subst hkeys
  refine Json.decode_dumps ?_
  rw [hk]
  refine .obj hnodup (fun f hf => ?_) fun f hf => ?_
  · exact fun _ => noPair_of_all (List.all_eq_true.mp hplain f.1 (List.mem_map_of_mem hf))
  · obtain ⟨s, hs, hvalue | hvalue⟩ := h f hf
    · rw [hvalue]
      exact .str fun _ => hs
    · rw [hvalue]
      refine .arr fun x hx => ?_
      rw [List.mem_singleton.mp hx]
      exact .str fun _ => hs

section Documents

variable {site : Site} {passage : Passage} {host : PyStr}

theorem decode_resourceFields {resource server : PyStr} {reader : JsonReader}
    (hdepth : 2 ≤ reader.depth) (hname : Json.NoPair site.resourceName)
    (hscope : Json.NoPair site.scope) (hresource : Json.NoPair resource)
    (hserver : Json.NoPair server) :
    Json.decode reader (Json.dumps true (.obj (resourceFields site resource server))) =
      .ok (.obj (resourceFields site resource server)) := by
  have hkeys : (resourceFields site resource server).map Prod.fst =
      [lit "resource", lit "resource_name", lit "authorization_servers", lit "scopes_supported",
        lit "bearer_methods_supported"] := rfl
  refine decode_document hdepth hkeys (by decide +kernel) (by decide +kernel) ?_
  unfold resourceFields
  simp only [List.forall_mem_cons]
  exact ⟨⟨_, hresource, Or.inl rfl⟩, ⟨_, hname, Or.inl rfl⟩, ⟨_, hserver, Or.inr rfl⟩,
    ⟨_, hscope, Or.inr rfl⟩, ⟨_, noPair_of_all (by decide), Or.inr rfl⟩, nofun⟩

theorem decode_serverFields {server authorize token revoke register : PyStr} {reader : JsonReader}
    (hdepth : 2 ≤ reader.depth) (hscope : Json.NoPair site.scope) (hserver : Json.NoPair server)
    (hauthorize : Json.NoPair authorize) (htoken : Json.NoPair token)
    (hrevoke : Json.NoPair revoke) (hregister : Json.NoPair register) :
    Json.decode reader
        (Json.dumps true (.obj (serverFields site server authorize token revoke register))) =
      .ok (.obj (serverFields site server authorize token revoke register)) := by
  have hkeys : (serverFields site server authorize token revoke register).map Prod.fst =
      [lit "issuer", lit "authorization_endpoint", lit "token_endpoint", lit "revocation_endpoint",
        lit "registration_endpoint", lit "scopes_supported", lit "response_types_supported",
        lit "grant_types_supported", lit "code_challenge_methods_supported",
        lit "token_endpoint_auth_methods_supported",
        lit "revocation_endpoint_auth_methods_supported"] := rfl
  refine decode_document hdepth hkeys (by decide +kernel) (by decide +kernel) ?_
  unfold serverFields
  simp only [List.forall_mem_cons]
  exact ⟨⟨_, hserver, Or.inl rfl⟩, ⟨_, hauthorize, Or.inl rfl⟩, ⟨_, htoken, Or.inl rfl⟩,
    ⟨_, hrevoke, Or.inl rfl⟩, ⟨_, hregister, Or.inl rfl⟩, ⟨_, hscope, Or.inr rfl⟩,
    ⟨_, noPair_of_all (by decide), Or.inr rfl⟩, ⟨_, noPair_of_all (by decide), Or.inr rfl⟩,
    ⟨_, noPair_of_all (by decide), Or.inr rfl⟩, ⟨_, noPair_of_all (by decide), Or.inr rfl⟩,
    ⟨_, noPair_of_all (by decide), Or.inr rfl⟩, nofun⟩

/-- A URL that leads to a metadata view is read as the view's document. -/
theorem fetchMetadata_eq {url path : PyStr} {scheme : Scheme} {view : View}
    {fields : List (PyStr × Json)}
    (hsplit : splitUrl url = some ⟨scheme, host, path⟩) (hview : resolve site.mount path = some view)
    (hserve : serveMetadata site (lit "GET") ⟨passage.seen scheme, host⟩ view =
      some (.ok (.document (cors ⟨200, .obj fields⟩))))
    (hread : Json.decode passage.reader (Json.dumps true (.obj fields)) = .ok (.obj fields)) :
    fetchMetadata site passage url = some fields := by
  unfold fetchMetadata
  simp only [hsplit, hview, hserve, Option.bind_eq_bind, Option.bind_some, cors, hread]

theorem requireSafe_get (view : Except PyExc PublicDocument) :
    requireSafe (lit "GET") view = view.map .document :=
  if_pos List.mem_cons_self

/-- The resource's document names the MCP endpoint and the issuer. -/
theorem fetch_resource (hdepth : 2 ≤ passage.reader.depth) (hname : Json.NoPair site.resourceName)
    (hscope : Json.NoPair site.scope) (hallowed : site.allowed host = true) {url path : PyStr}
    {scheme : Scheme} (hsplit : splitUrl url = some ⟨scheme, host, path⟩)
    (hview : resolve site.mount path = some .protectedResourceMetadata) :
    ∃ resource, Advertised site host resource .mcpEndpoint ∧
      fetchMetadata site passage url = some (resourceFields site resource
        (origin (issuerScheme site (passage.seen scheme)) host ++ lit "/o")) := by
  have hnamed : ∃ p ∈ urlpatterns, p.name = some (lit "mcp_sql_endpoint") ∧ p.view = .mcpEndpoint :=
    ⟨_, .tail _ (.tail _ (.tail _ (.tail _ (.head _)))), rfl, rfl⟩
  have hissuer : issuer site ⟨passage.seen scheme, host⟩ = _ := issuer_eq hallowed
  obtain ⟨resource, path', hresource, hplain, hsplit', hview'⟩ :=
    @exists_absoluteUri site ⟨passage.seen scheme, host⟩ hallowed _ _ hnamed
  refine ⟨resource, ⟨_, _, hsplit', hview'⟩, fetchMetadata_eq hsplit hview ?_
    (decode_resourceFields hdepth hname hscope (noPair_of_all hplain) (noPair_issuer hallowed _))⟩
  unfold serveMetadata protectedResourceMetadata
  rw [hresource, hissuer, requireSafe_get]
  rfl

/-- The authorization server's document names its issuer and the four endpoints. -/
theorem fetch_server (hdepth : 2 ≤ passage.reader.depth) (hscope : Json.NoPair site.scope)
    (hallowed : site.allowed host = true) {url path : PyStr} {scheme : Scheme}
    (hsplit : splitUrl url = some ⟨scheme, host, path⟩)
    (hview : resolve site.mount path = some .authorizationServerMetadata) :
    ∃ authorize token revoke register, Advertised site host authorize .authorize ∧
      Advertised site host token .token ∧ Advertised site host revoke .revokeToken ∧
      Advertised site host register .registerClient ∧
      fetchMetadata site passage url = some (serverFields site
        (origin (issuerScheme site (passage.seen scheme)) host ++ lit "/o")
        authorize token revoke register) := by
  have hissuer : issuer site ⟨passage.seen scheme, host⟩ = _ := issuer_eq hallowed
  have huri := @exists_absoluteUri site ⟨passage.seen scheme, host⟩ hallowed
  obtain ⟨authorize, _, hauthorize, hplain₁, hsplit₁, hview₁⟩ :=
    @huri (lit "authorize") .authorize ⟨_, .head _, rfl, rfl⟩
  obtain ⟨token, _, htoken, hplain₂, hsplit₂, hview₂⟩ :=
    @huri (lit "token") .token ⟨_, .tail _ (.head _), rfl, rfl⟩
  obtain ⟨revoke, _, hrevoke, hplain₃, hsplit₃, hview₃⟩ :=
    @huri (lit "revoke-token") .revokeToken ⟨_, .tail _ (.tail _ (.head _)), rfl, rfl⟩
  obtain ⟨register, _, hregister, hplain₄, hsplit₄, hview₄⟩ :=
    @huri (lit "oauth_dynamic_client_registration") .registerClient
      ⟨_, .tail _ (.tail _ (.tail _ (.head _))), rfl, rfl⟩
  refine ⟨authorize, token, revoke, register, ⟨_, _, hsplit₁, hview₁⟩, ⟨_, _, hsplit₂, hview₂⟩,
    ⟨_, _, hsplit₃, hview₃⟩, ⟨_, _, hsplit₄, hview₄⟩, fetchMetadata_eq hsplit hview ?_
    (decode_serverFields hdepth hscope (noPair_issuer hallowed _) (noPair_of_all hplain₁)
      (noPair_of_all hplain₂) (noPair_of_all hplain₃) (noPair_of_all hplain₄))⟩
  unfold serveMetadata authorizationServerMetadata
  rw [hissuer, hauthorize, htoken, hrevoke, hregister, requireSafe_get]
  rfl

end Documents

/-! ## The flow -/

/-- The client takes the URL out of the challenge. -/
theorem quotedParam_challenge {url : PyStr} (h : url.all isUrlChar = true) :
    quotedParam (lit "resource_metadata")
      (lit "Bearer realm=\"api\", resource_metadata=\"" ++ (url ++ lit "\"")) = some url := by
  have hread : ∀ tail, quotedParam (lit "resource_metadata")
      (lit "Bearer realm=\"api\", resource_metadata=\"" ++ tail) =
      some (tail.takeWhile (· ≠ 0x22)) := fun tail => rfl
  have hquote : ∀ c ∈ url, decide (c ≠ (0x22 : CodePoint)) = true := fun c hc =>
    decide_eq_true (of_isUrlChar (List.all_eq_true.mp h c hc)).2
  rw [hread, List.takeWhile_append_of_pos hquote]
  exact congrArg some (List.append_nil url)

/-- The well-known path of the issuer is served exactly when the routes are mounted at the root. -/
theorem resolve_wellKnown {mount : Mount} {view : View} :
    resolve mount (lit "/.well-known/oauth-authorization-server" ++ lit "/o") = some view ↔
      mount.text = [] ∧ view = .authorizationServerMetadata := by
  have hmem : (⟨lit ".well-known/oauth-authorization-server/o", .authorizationServerMetadata, false,
      some (lit "oauth_authorization_server_metadata")⟩ : UrlPattern) ∈ urlpatterns :=
    .tail _ (.tail _ (.tail _ (.tail _ (.tail _ (.tail _ (.tail _ (.head _)))))))
  have hroot : ∀ route, mount.text = [] → mount.path route = lit "/" ++ route := by
    intro route h
    rw [Mount.path, h]
    rfl
  have hpath : lit "/.well-known/oauth-authorization-server" ++ lit "/o" =
      lit "/" ++ lit ".well-known/oauth-authorization-server/o" := by decide +kernel
  have hsuffix : (urlpatterns.all fun p => !(p.route.isSuffixOf
      (lit ".well-known/oauth-authorization-server/o")) ||
      p.route = lit ".well-known/oauth-authorization-server/o" &&
        p.view = .authorizationServerMetadata) = true := by decide +kernel
  rw [hpath]
  constructor
  · intro h
    obtain ⟨p, hp, heq, rfl⟩ := resolve_eq_some h
    have htext := List.append_cancel_left heq
    have hends : p.route.isSuffixOf (lit ".well-known/oauth-authorization-server/o") = true :=
      List.isSuffixOf_iff_suffix.mpr ⟨mount.text, htext.symm⟩
    have hcase := List.all_eq_true.mp hsuffix p hp
    rw [hends] at hcase
    simp only [Bool.not_true, Bool.false_or, Bool.and_eq_true, decide_eq_true_eq] at hcase
    rw [hcase.1] at htext
    exact ⟨List.append_left_eq_self.mp htext.symm, hcase.2⟩
  · rintro ⟨htext, rfl⟩
    rw [← hroot _ htext]
    exact resolve_of_mem mount hmem

/-- What a client that got through has learnt: every URL is one of the host that the view in question
serves, and the issuer is the host's, under `https` outside of debugging. -/
structure Leads (site : Site) (host : PyStr) (found : Discovered) : Prop where
  resource : Advertised site host found.resource .mcpEndpoint
  issuer : ∃ scheme, (site.debug = false → scheme = .https) ∧
    found.issuer = origin scheme host ++ lit "/o"
  authorize : Advertised site host found.authorizationEndpoint .authorize
  token : Advertised site host found.tokenEndpoint .token
  revoke : Advertised site host found.revocationEndpoint .revokeToken
  register : Advertised site host found.registrationEndpoint .registerClient

/-- When the flow gets through: the host is an allowed one, the client began at the MCP endpoint, the
routes are mounted at the root, and in debugging the scheme the site is told has settled. -/
def Reachable (site : Site) (passage : Passage) (start : ClientUrl) : Prop :=
  site.allowed start.host = true ∧ resolve site.mount start.path = some .mcpEndpoint ∧
    site.mount.text = [] ∧ (site.debug = true →
      passage.seen (passage.seen (passage.seen start.scheme)) =
        passage.seen (passage.seen start.scheme))

section Flow

variable {site : Site} {passage : Passage} {start : ClientUrl}

theorem issuerScheme_https (scheme : Scheme) (h : site.debug = false) :
    issuerScheme site scheme = .https := by
  unfold issuerScheme
  rw [h]
  rfl

/-- A host that is refused gets no challenge. -/
theorem discover_of_refused (h : site.allowed start.host = false) :
    discover site passage start = none := by
  have hrefused : ∀ scheme, (authenticateHeader site ⟨scheme, start.host⟩).toOption = none := by
    intro scheme
    unfold authenticateHeader absoluteUri getHost
    rw [h]
    cases reverse site.mount (lit "mcp_sql_protected_resource_metadata") <;> rfl
  unfold discover
  rw [hrefused]
  cases resolve site.mount start.path with
  | none => rfl
  | some view => cases view <;> rfl

theorem firstString_resourceFields (resource server : PyStr) :
    firstString (resourceFields site resource server) (lit "authorization_servers") = some server := rfl

theorem stringField_resource (resource server : PyStr) :
    stringField (resourceFields site resource server) (lit "resource") = some resource := rfl

/-- The URL of the server's document goes to the well-known path of the same host. -/
theorem serverMetadataUrl_issuer {host : PyStr} (hallowed : site.allowed host = true)
    (scheme : Scheme) : serverMetadataUrl (origin scheme host ++ lit "/o") =
      some (origin scheme host ++ (lit "/.well-known/oauth-authorization-server" ++ lit "/o")) := by
  have hsplit : splitUrl (origin scheme host ++ lit "/o") = some ⟨scheme, host, lit "/o"⟩ :=
    splitUrl_origin (site.hostChars host hallowed) scheme
  unfold serverMetadataUrl
  rw [hsplit]
  rfl

/-- The client of an allowed host learns where the resource and its issuer are, and goes on with the
issuer's document. -/
theorem discover_of_allowed (hdepth : 2 ≤ passage.reader.depth)
    (hname : Json.NoPair site.resourceName) (hscope : Json.NoPair site.scope)
    (hallowed : site.allowed start.host = true)
    (hview : resolve site.mount start.path = some .mcpEndpoint) {scheme : Scheme}
    (hscheme : scheme = issuerScheme site (passage.seen (passage.seen start.scheme))) :
    ∃ resource, Advertised site start.host resource .mcpEndpoint ∧ ∀ found,
      (discover site passage start = some found ↔ ∃ server,
        fetchMetadata site passage (origin scheme start.host ++
          (lit "/.well-known/oauth-authorization-server" ++ lit "/o")) = some server ∧
        stringField server (lit "issuer") = some (origin scheme start.host ++ lit "/o") ∧
        found.resource = resource ∧ found.issuer = origin scheme start.host ++ lit "/o" ∧
        stringField server (lit "authorization_endpoint") = some found.authorizationEndpoint ∧
        stringField server (lit "token_endpoint") = some found.tokenEndpoint ∧
        stringField server (lit "revocation_endpoint") = some found.revocationEndpoint ∧
        stringField server (lit "registration_endpoint") = some found.registrationEndpoint) := by
  have hnamed : ∃ p ∈ urlpatterns, p.name = some (lit "mcp_sql_protected_resource_metadata") ∧
      p.view = .protectedResourceMetadata :=
    ⟨_, .tail _ (.tail _ (.tail _ (.tail _ (.tail _ (.tail _ (.head _)))))), rfl, rfl⟩
  obtain ⟨url, path, huri, hplain, hsplit, hmetadata⟩ :=
    @exists_absoluteUri site ⟨passage.seen start.scheme, start.host⟩ hallowed _ _ hnamed
  have hchallenge : (authenticateHeader site ⟨passage.seen start.scheme, start.host⟩).toOption =
      some (lit "Bearer realm=\"api\", resource_metadata=\"" ++ (url ++ lit "\"")) := by
    unfold authenticateHeader
    rw [huri]
    rfl
  obtain ⟨resource, hresource, hfetch⟩ :=
    fetch_resource hdepth hname hscope hallowed hsplit hmetadata
  refine ⟨resource, hresource, fun found => ?_⟩
  rw [← hscheme] at hfetch
  unfold discover
  simp only [hview, hchallenge, quotedParam_challenge hplain, hfetch, firstString_resourceFields,
    serverMetadataUrl_issuer hallowed, stringField_resource, Option.bind_eq_bind, Option.bind_some,
    Option.bind_eq_some_iff, Option.guard_eq_some']
  constructor
  · rintro ⟨_, -, server, hserver, _, hissuer, authorize, hauthorize, token, htoken, revoke, hrevoke,
      register, hregister, hpure⟩
    obtain rfl := Option.some.inj hpure
    exact ⟨server, hserver, hissuer, rfl, rfl, hauthorize, htoken, hrevoke, hregister⟩
  · rintro ⟨server, hserver, hissuer, rfl, hfound, hauthorize, htoken, hrevoke, hregister⟩
    refine ⟨(), trivial, server, hserver, (), hissuer, _, hauthorize, _, htoken, _, hrevoke, _,
      hregister, ?_⟩
    rw [← hfound]
    rfl

/-- The client that begins elsewhere gets no challenge. -/
theorem discover_of_elsewhere (h : resolve site.mount start.path ≠ some .mcpEndpoint) :
    discover site passage start = none := by
  unfold discover
  cases hview : resolve site.mount start.path with
  | none => rfl
  | some view =>
    cases view with
    | mcpEndpoint => exact absurd hview h
    | _ => rfl

/-- The issuer's document is served exactly when the routes are mounted at the root. -/
theorem mount_of_fetchMetadata {host : PyStr} (hallowed : site.allowed host = true) {scheme : Scheme}
    {fields : List (PyStr × Json)} (h : fetchMetadata site passage (origin scheme host ++
      (lit "/.well-known/oauth-authorization-server" ++ lit "/o")) = some fields) :
    site.mount.text = [] := by
  have hsplit := @splitUrl_origin host (lit ".well-known/oauth-authorization-server" ++ lit "/o")
    (site.hostChars host hallowed) scheme
  obtain ⟨target, htarget, view, hview, -⟩ := by
    unfold fetchMetadata at h
    simp only [Option.bind_eq_bind, Option.bind_eq_some_iff] at h
    exact h
  obtain rfl := Option.some.inj (hsplit.symm.trans htarget)
  exact (resolve_wellKnown.mp hview).1

end Flow

/-- **Discovery.**  A client that knows the URL of the resource alone gets through exactly when the host
is allowed, it began at one of the two paths of the MCP endpoint, the routes are mounted at the root, and
in debugging the proxy reports the scheme of the issuer's URL as the issuer has it.  What it has learnt
then are URLs of that host, each of which the view in question serves; outside of debugging the issuer is
under `https`, whatever the proxy reports. -/
theorem discovery (site : Site) (passage : Passage) (start : ClientUrl)
    (hdepth : 2 ≤ passage.reader.depth) (hname : Json.NoPair site.resourceName)
    (hscope : Json.NoPair site.scope) :
    ((∃ found, discover site passage start = some found) ↔ Reachable site passage start) ∧
      ∀ found, discover site passage start = some found → Leads site start.host found := by
  by_cases hallowed : site.allowed start.host = true
  swap
  · have hnone : discover site passage start = none :=
      discover_of_refused (Bool.eq_false_iff.mpr hallowed)
    rw [hnone]
    exact ⟨⟨nofun, fun h => absurd h.1 hallowed⟩, nofun⟩
  by_cases hview : resolve site.mount start.path = some .mcpEndpoint
  swap
  · have hnone : discover site passage start = none := discover_of_elsewhere hview
    rw [hnone]
    exact ⟨⟨nofun, fun h => absurd h.2.1 hview⟩, nofun⟩
  obtain ⟨scheme, hscheme⟩ :
      ∃ scheme, scheme = issuerScheme site (passage.seen (passage.seen start.scheme)) := ⟨_, rfl⟩
  obtain ⟨resource, hresource, hfound⟩ :=
    discover_of_allowed hdepth hname hscope hallowed hview hscheme
  have hsplit := @splitUrl_origin start.host
    (lit ".well-known/oauth-authorization-server" ++ lit "/o")
    (site.hostChars start.host hallowed) scheme
  -- at the root, the second document is the issuer's own
  have hserver : site.mount.text = [] → _ := fun hroot =>
    @fetch_server site passage start.host hdepth hscope hallowed _ _ _ hsplit
      (resolve_wellKnown.mpr ⟨hroot, rfl⟩)
  have hsettled : issuerScheme site (passage.seen scheme) = scheme ↔ (site.debug = true →
      passage.seen (passage.seen (passage.seen start.scheme)) =
        passage.seen (passage.seen start.scheme)) := by
    subst hscheme
    unfold issuerScheme
    cases site.debug <;> simp
  constructor
  · constructor
    · rintro ⟨found, hdiscover⟩
      obtain ⟨server, hfetch, hissuer, -⟩ := (hfound found).mp hdiscover
      have hroot := mount_of_fetchMetadata hallowed hfetch
      obtain ⟨authorize, token, revoke, register, -, -, -, -, hdocument⟩ := hserver hroot
      obtain rfl := Option.some.inj (hfetch.symm.trans hdocument)
      have hsame := origin_inj (site.hostChars start.host hallowed) (Option.some.inj hissuer)
      exact ⟨hallowed, hview, hroot, hsettled.mp hsame⟩
    · rintro ⟨-, -, hroot, hdebug⟩
      obtain ⟨authorize, token, revoke, register, -, -, -, -, hdocument⟩ := hserver hroot
      refine ⟨⟨resource, _, authorize, token, revoke, register⟩, (hfound _).mpr
        ⟨_, hdocument, ?_, rfl, rfl, rfl, rfl, rfl, rfl⟩⟩
      rw [hsettled.mpr hdebug]
      rfl
  · intro found hdiscover
    obtain ⟨server, hfetch, -, hresource', hissuer, hauthorize, htoken, hrevoke, hregister⟩ :=
      (hfound found).mp hdiscover
    obtain ⟨authorize, token, revoke, register, h₁, h₂, h₃, h₄, hdocument⟩ :=
      hserver (mount_of_fetchMetadata hallowed hfetch)
    obtain rfl := Option.some.inj (hfetch.symm.trans hdocument)
    have hhttps : site.debug = false → scheme = .https := fun hdebug =>
      hscheme.trans (issuerScheme_https _ hdebug)
    exact ⟨hresource' ▸ hresource, ⟨scheme, hhttps, hissuer⟩, Option.some.inj hauthorize ▸ h₁,
      Option.some.inj htoken ▸ h₂, Option.some.inj hrevoke ▸ h₃, Option.some.inj hregister ▸ h₄⟩

/-- A site at the root of its host, outside of debugging. -/
def exampleSite : Site where
  mount := Mount.root
  debug := false
  resourceName := lit "MCP SQL"
  scope := lit "mcp:sql"
  allowed := fun host => host = lit "mcp.example.com"
  disallowedHost := fun _ => .otherException (lit "DisallowedHost") none
  hostChars := by
    intro host h
    rw [of_decide_eq_true h]
    exact List.all_eq_true.mp (by decide)

/-- The client gets through from the path without a slash, behind a proxy that hides the `https`. -/
theorem discovery_example : ∃ found, discover exampleSite ⟨fun _ => .http, 2, id⟩
    ⟨.https, lit "mcp.example.com", lit "/mcp/sql"⟩ = some found :=
  (discovery exampleSite ⟨fun _ => .http, 2, id⟩ ⟨.https, lit "mcp.example.com", lit "/mcp/sql"⟩
    (Nat.le_refl 2) (noPair_of_all (by decide)) (noPair_of_all (by decide))).1.mpr
    ⟨by decide, by decide +kernel, rfl, nofun⟩

end McpSql
