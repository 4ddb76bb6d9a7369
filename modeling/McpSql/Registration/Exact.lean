import McpSql.Python.JsonScan
import McpSql.Registration.Redirects

/-!
# Which bodies are registered

The validation part of `register_client` (`views/registration.py`) on the bytes of a request.  It
should answer every body, with an error of RFC 7591 or by accepting it, and accept the valid ones only.
It does so for the bodies whose values have the types the checks take for granted.
-/

namespace McpSql

open Python PyStr Raising

/-! ## The body of a request -/

/-- How `json.loads` reads a request body, and what its exceptions say. -/
structure BodyReader where
  json : JsonReader
  errorText : List Byte → LoadsError → PyStr

/-- The exception of a failed `json.loads`. -/
def loadsExc (text : PyStr) : LoadsError → PyExc
  | .unicode => .unicodeError text
  | .syntactic => .jsonDecodeError text
  | .recursion => .recursionError text
  | .tooLong => .valueError text

/-- `json.loads(request.body)`. -/
def readBody (reader : BodyReader) (body : List Byte) : Except PyExc Json :=
  (Json.loads reader.json body).mapError fun e => loadsExc (reader.errorText body e) e

/-- The error codes of RFC 7591. -/
def rfcErrorCodes : List PyStr :=
  [lit "invalid_redirect_uri", lit "invalid_client_metadata", lit "invalid_software_statement",
    lit "unapproved_software_statement"]

/-- A 400 with an error code of RFC 7591. -/
def IsRegistrationError (response : JsonResponse) : Prop :=
  ∃ code description, code ∈ rfcErrorCodes ∧ response = registrationError code description

/-- The body is answered with an error. -/
def Refused (result : Except PyExc (JsonResponse ⊕ Registration)) : Prop :=
  ∃ response, result = .ok (.inl response) ∧ IsRegistrationError response

/-- The body is accepted. -/
def Admitted (result : Except PyExc (JsonResponse ⊕ Registration)) : Prop :=
  ∃ registration, result = .ok (.inr registration)

/-- A list that contains a string. -/
def ListsStr (s : PyStr) (value : Json) : Prop := ∃ items, value = .arr items ∧ Json.str s ∈ items

section Result

variable {e : PyExc} {response : JsonResponse} {registration : Registration}

@[simp] theorem not_refused_error : ¬Refused (.error e) := by
  rintro ⟨response, h, -⟩
  simp at h

@[simp] theorem not_admitted_error : ¬Admitted (.error e) := by
  rintro ⟨registration, h⟩
  simp at h

@[simp] theorem refused_inl_iff : Refused (.ok (.inl response)) ↔ IsRegistrationError response := by
  constructor
  · rintro ⟨response', h, herror⟩
    obtain rfl := Sum.inl.inj (Except.ok.inj h)
    exact herror
  · exact fun herror => ⟨response, rfl, herror⟩

@[simp] theorem not_admitted_inl : ¬Admitted (.ok (.inl response)) := by
  rintro ⟨registration, h⟩
  simp at h

@[simp] theorem admitted_inr : Admitted (.ok (.inr registration)) := ⟨registration, rfl⟩

end Result

section Exact

variable [UnicodeDatabase]

/-- The fields of a valid registration. -/
structure ValidFields (fields : List (PyStr × Json)) : Prop where
  redirectUris : ∃ uris : List PyStr, uris ≠ [] ∧
    Json.get fields (lit "redirect_uris") = some (.arr (uris.map .str)) ∧
      ∀ uri ∈ uris, isLoopbackRedirect uri = .ok true
  grantTypes : ∀ value, Json.get fields (lit "grant_types") = some value →
    ListsStr (lit "authorization_code") value
  responseTypes : ∀ value, Json.get fields (lit "response_types") = some value →
    ListsStr (lit "code") value
  authMethod : ∀ value, Json.get fields (lit "token_endpoint_auth_method") = some value →
    value = .str (lit "none")

/-- A UTF-8 JSON object with valid fields. -/
def ValidBody (reader : BodyReader) (body : List Byte) : Prop :=
  ∃ text fields, decodeUtf8 body = some text ∧
    Json.decode reader.json text = .ok (.obj fields) ∧ ValidFields fields

/-- A body is answered or accepted, and accepted exactly when it is valid. -/
def RegistrationExact (reader : BodyReader) (body : List Byte) : Prop :=
  (Refused (validateRegistration (readBody reader body)) ∨
      Admitted (validateRegistration (readBody reader body))) ∧
    (Admitted (validateRegistration (readBody reader body)) ↔ ValidBody reader body)

end Exact

/-! ## What the checks take for granted -/

/-- `body.get("grant_types", ["authorization_code"])`. -/
def requestedGrantTypes (fields : List (PyStr × Json)) : Json :=
  (Json.get fields (lit "grant_types")).getD (.arr [.str (lit "authorization_code")])

/-- `body.get("response_types", ["code"])`. -/
def requestedResponseTypes (fields : List (PyStr × Json)) : Json :=
  (Json.get fields (lit "response_types")).getD (.arr [.str (lit "code")])

/-- `body.get("token_endpoint_auth_method", "none")`. -/
def requestedAuthMethod (fields : List (PyStr × Json)) : Json :=
  (Json.get fields (lit "token_endpoint_auth_method")).getD (.str (lit "none"))

/-- A list. -/
def IsList (value : Json) : Prop := ∃ items, value = .arr items

/-- Read as UTF-8, and UTF-8. -/
def IsUtf8 (body : List Byte) : Prop :=
  detectEncoding body = .utf8 ∧ (decodeUtf8 body).isSome = true

/-- The values the last three checks come to are containers; where all of them pass, the first two are
lists and the body is UTF-8. -/
def MetadataReadable (utf8 : Prop) (fields : List (PyStr × Json)) : Prop :=
  (requestedGrantTypes fields).hasMember (lit "authorization_code") ≠ none ∧
    ((requestedGrantTypes fields).hasMember (lit "authorization_code") = some true →
      (requestedResponseTypes fields).hasMember (lit "code") ≠ none ∧
        ((requestedResponseTypes fields).hasMember (lit "code") = some true →
          (requestedAuthMethod fields).isStr (lit "none") = true →
            IsList (requestedGrantTypes fields) ∧ IsList (requestedResponseTypes fields) ∧ utf8))

section Readable

variable [UnicodeDatabase]

/-- An entry of `redirect_uris` that is a loopback URI. -/
def IsLoopbackEntry (entry : Json) : Prop :=
  ∃ uri, entry = .str uri ∧ isLoopbackRedirect uri = .ok true

/-- The URIs the loop comes to are taken apart by `urlparse`; where all entries are loopback URIs, the
other values are readable. -/
def FieldsReadable (utf8 : Prop) (fields : List (PyStr × Json)) : Prop :=
  ∀ entries, entries ≠ [] → Json.get fields (lit "redirect_uris") = some (.arr entries) →
    (∀ entry, ComesTo IsLoopbackEntry entries entry →
      ∀ uri, entry = .str uri → (urlparse uri).isSome) ∧
    ((∀ entry ∈ entries, IsLoopbackEntry entry) → MetadataReadable utf8 fields)

/-- `json.loads` raises nothing but a `JSONDecodeError`, and the fields of an object are readable. -/
structure BodyReadable (reader : BodyReader) (body : List Byte) : Prop where
  loads : ∀ e, Json.loads reader.json body = .error e → e = .syntactic
  fields : ∀ fields, Json.loads reader.json body = .ok (.obj fields) →
    FieldsReadable (IsUtf8 body) fields

end Readable

/-! ## The single checks -/

/-- Nothing is raised. -/
abbrev Silent {α : Type} (x : Except PyExc α) : Prop := Confined (fun _ => false) x

theorem silent_bind {α β : Type} {x : Except PyExc α} {f : α → Except PyExc β} :
    Silent (x >>= f) ↔ Silent x ∧ ∀ a, x = .ok a → Silent (f a) := confined_bind

section Checks

variable [UnicodeDatabase]

theorem silent_isLoopbackRedirect_iff {uri : PyStr} :
    Silent (isLoopbackRedirect uri) ↔ (urlparse uri).isSome := by
  unfold isLoopbackRedirect
  cases urlparse uri with
  | none => simp
  | some parsed =>
    refine iff_of_true ?_ rfl
    simp only []
    split_ifs
    all_goals exact confined_ok _ _

theorem isLoopbackEntry_str {uri : PyStr} :
    IsLoopbackEntry (.str uri) ↔ isLoopbackRedirect uri = .ok true := by
  constructor
  · rintro ⟨uri', huri, htrue⟩
    obtain rfl := Json.str.inj huri
    exact htrue
  · exact fun htrue => ⟨uri, rfl, htrue⟩

/-- The loop over `redirect_uris` raises nothing exactly when `urlparse` takes every URI it comes to
apart. -/
theorem silent_checkRedirectUris_iff {entries : List Json} :
    Silent (checkRedirectUris entries) ↔ ∀ entry, ComesTo IsLoopbackEntry entries entry →
      ∀ uri, entry = .str uri → (urlparse uri).isSome := by
  induction entries with
  | nil => exact iff_of_true (confined_ok _ _) fun entry hentry => absurd hentry not_comesTo_nil
  | cons entry rest ih =>
    rw [forall_comesTo_cons_iff, ← ih, checkRedirectUris]
    cases hentry : entry.asStr with
    | none =>
      have hother : ∀ uri, entry ≠ .str uri := by
        rintro uri rfl
        simp [Json.asStr] at hentry
      refine iff_of_true (confined_ok _ _) ⟨fun uri huri => absurd huri (hother uri), ?_⟩
      rintro ⟨uri, huri, -⟩
      exact absurd huri (hother uri)
    | some uri =>
      obtain rfl : entry = .str uri := by
        cases entry with
        | str s => simpa [Json.asStr] using hentry
        | _ => simp [Json.asStr] at hentry
      simp only []
      rw [silent_bind, silent_isLoopbackRedirect_iff, isLoopbackEntry_str]
      constructor
      · rintro ⟨hparsed, hnext⟩
        refine ⟨fun uri' huri => Json.str.inj huri ▸ hparsed, fun htrue => ?_⟩
        have hloop := hnext true htrue
        rw [if_pos rfl] at hloop
        exact (silent_bind.mp hloop).1
      · rintro ⟨hparsed, hnext⟩
        refine ⟨hparsed uri rfl, fun loopback hloopback => ?_⟩
        cases loopback with
        | true =>
          rw [if_pos rfl]
          refine silent_bind.mpr ⟨hnext hloopback, fun found _ => ?_⟩
          rcases found with refused | uris
          · exact confined_ok _ _
          · exact confined_ok _ _
        | false => exact confined_ok _ _

end Checks

/-- What the three last checks return, by what they look at. -/
theorem checkMetadata_eq (fields : List (PyStr × Json)) :
    checkMetadata fields =
      match (requestedGrantTypes fields).hasMember (lit "authorization_code") with
      | none => .error (notIterable (requestedGrantTypes fields))
      | some false => .ok (some (registrationError (lit "invalid_client_metadata")
          (lit "grant_types must include 'authorization_code'")))
      | some true =>
        match (requestedResponseTypes fields).hasMember (lit "code") with
        | none => .error (notIterable (requestedResponseTypes fields))
        | some false => .ok (some (registrationError (lit "invalid_client_metadata")
            (lit "response_types must include 'code'")))
        | some true =>
          if (requestedAuthMethod fields).isStr (lit "none") = true then .ok none
          else .ok (some (registrationError (lit "invalid_client_metadata")
            (lit "Only token_endpoint_auth_method='none' is supported (public client)"))) := by
  unfold checkMetadata notIn
  rw [← requestedGrantTypes, ← requestedResponseTypes, ← requestedAuthMethod]
  simp only []
  cases (requestedGrantTypes fields).hasMember (lit "authorization_code") with
  | none => rfl
  | some named =>
    cases named with
    | false => rfl
    | true =>
      cases (requestedResponseTypes fields).hasMember (lit "code") with
      | none => rfl
      | some named =>
        cases named with
        | false => rfl
        | true =>
          cases (requestedAuthMethod fields).isStr (lit "none") with
          | false => rfl
          | true => rfl

/-- The three last checks raise when a value they come to is no container, refuse when one does not
name what it must, and pass when each does. -/
theorem checkMetadata_cases (fields : List (PyStr × Json)) :
    ((∃ value, checkMetadata fields = .error (notIterable value)) ∧
      ((requestedGrantTypes fields).hasMember (lit "authorization_code") = none ∨
        (requestedGrantTypes fields).hasMember (lit "authorization_code") = some true ∧
          (requestedResponseTypes fields).hasMember (lit "code") = none)) ∨
    ((∃ response, checkMetadata fields = .ok (some response) ∧ IsRegistrationError response) ∧
      ((requestedGrantTypes fields).hasMember (lit "authorization_code") = some false ∨
        (requestedGrantTypes fields).hasMember (lit "authorization_code") = some true ∧
          ((requestedResponseTypes fields).hasMember (lit "code") = some false ∨
            (requestedResponseTypes fields).hasMember (lit "code") = some true ∧
              (requestedAuthMethod fields).isStr (lit "none") = false))) ∨
    (checkMetadata fields = .ok none ∧
      (requestedGrantTypes fields).hasMember (lit "authorization_code") = some true ∧
        (requestedResponseTypes fields).hasMember (lit "code") = some true ∧
          (requestedAuthMethod fields).isStr (lit "none") = true) := by
  have hcode : lit "invalid_client_metadata" ∈ rfcErrorCodes := by decide
  rw [checkMetadata_eq]
  cases (requestedGrantTypes fields).hasMember (lit "authorization_code") with
  | none => exact Or.inl ⟨⟨_, rfl⟩, Or.inl rfl⟩
  | some named =>
    cases named with
    | false => exact Or.inr (Or.inl ⟨⟨_, rfl, _, _, hcode, rfl⟩, Or.inl rfl⟩)
    | true =>
      cases (requestedResponseTypes fields).hasMember (lit "code") with
      | none => exact Or.inl ⟨⟨_, rfl⟩, Or.inr ⟨rfl, rfl⟩⟩
      | some named =>
        cases named with
        | false =>
          exact Or.inr (Or.inl ⟨⟨_, rfl, _, _, hcode, rfl⟩, Or.inr ⟨rfl, Or.inl rfl⟩⟩)
        | true =>
          cases (requestedAuthMethod fields).isStr (lit "none") with
          | false =>
            exact Or.inr (Or.inl ⟨⟨_, rfl, _, _, hcode, rfl⟩, Or.inr ⟨rfl, Or.inr ⟨rfl, rfl⟩⟩⟩)
          | true => exact Or.inr (Or.inr ⟨rfl, rfl, rfl, rfl⟩)

/-- The three last checks raise nothing exactly when the values they come to are containers. -/
theorem silent_checkMetadata_iff {fields : List (PyStr × Json)} : Silent (checkMetadata fields) ↔
    (requestedGrantTypes fields).hasMember (lit "authorization_code") ≠ none ∧
      ((requestedGrantTypes fields).hasMember (lit "authorization_code") = some true →
        (requestedResponseTypes fields).hasMember (lit "code") ≠ none) := by
  rcases checkMetadata_cases fields with
    ⟨⟨_, hraises⟩, hnone | ⟨hgrant, hnone⟩⟩ | ⟨⟨response, hrefuses, -⟩, hgrant | ⟨hgrant, hlater⟩⟩ |
      ⟨hpasses, hgrant, hresponse, -⟩
  · simp [hraises, hnone]
  · simp [hraises, hgrant, hnone]
  · simp [hrefuses, hgrant]
  · rcases hlater with hresponse | ⟨hresponse, -⟩
    · simp [hrefuses, hgrant, hresponse]
    · simp [hrefuses, hgrant, hresponse]
  · simp [hpasses, hgrant, hresponse]

/-- They pass exactly when each finds what it looks for. -/
theorem checkMetadata_eq_none_iff {fields : List (PyStr × Json)} : checkMetadata fields = .ok none ↔
    (requestedGrantTypes fields).hasMember (lit "authorization_code") = some true ∧
      (requestedResponseTypes fields).hasMember (lit "code") = some true ∧
        (requestedAuthMethod fields).isStr (lit "none") = true := by
  rcases checkMetadata_cases fields with
    ⟨⟨_, hraises⟩, hnone | ⟨-, hnone⟩⟩ |
      ⟨⟨response, hrefuses, -⟩, hgrant | ⟨-, hresponse | ⟨-, hauth⟩⟩⟩ | ⟨hpasses, hall⟩
  · simp [hraises, hnone]
  · simp [hraises, hnone]
  · simp [hrefuses, hgrant]
  · simp [hrefuses, hresponse]
  · simp [hrefuses, hauth]
  · exact iff_of_true hpasses hall

theorem isRegistrationError_of_checkMetadata {fields : List (PyStr × Json)}
    {response : JsonResponse} (h : checkMetadata fields = .ok (some response)) :
    IsRegistrationError response := by
  rcases checkMetadata_cases fields with
    ⟨⟨_, hraises⟩, -⟩ | ⟨⟨refusal, hrefuses, herror⟩, -⟩ | ⟨hpasses, -⟩
  · simp [hraises] at h
  · obtain rfl : refusal = response := by simpa [hrefuses] using h
    exact herror
  · simp [hpasses] at h

/-! ## Valid fields -/

/-- A condition on a value that may be missing, when the default satisfies it. -/
theorem forall_get_iff {fields : List (PyStr × Json)} {key : PyStr} {default_ : Json}
    {p : Json → Prop} (hdefault : p default_) :
    (∀ value, Json.get fields key = some value → p value) ↔
      p ((Json.get fields key).getD default_) := by
  cases Json.get fields key with
  | none => simp [hdefault]
  | some value => simp

theorem isStr_iff {s : PyStr} {value : Json} : value.isStr s = true ↔ value = .str s := by
  cases value with
  | str t => simp [Json.isStr]
  | _ => simp [Json.isStr]

/-- A list contains a string exactly when `in` finds it. -/
theorem listsStr_iff {s : PyStr} {value : Json} :
    ListsStr s value ↔ IsList value ∧ value.hasMember s = some true := by
  have hlist : ∀ items, (Json.arr items).hasMember s = some true ↔ Json.str s ∈ items := by
    intro items
    have hany : items.any (Json.isStr s) = true ↔ Json.str s ∈ items := by
      rw [List.any_eq_true]
      constructor
      · rintro ⟨x, hx, hstr⟩
        exact isStr_iff.mp hstr ▸ hx
      · intro hs
        exact ⟨_, hs, isStr_iff.mpr rfl⟩
    rw [← hany]
    exact Option.some_inj
  constructor
  · rintro ⟨items, rfl, hs⟩
    exact ⟨⟨items, rfl⟩, (hlist items).mpr hs⟩
  · rintro ⟨⟨items, rfl⟩, hmember⟩
    exact ⟨items, rfl, (hlist items).mp hmember⟩

section Fields

variable [UnicodeDatabase] {fields : List (PyStr × Json)} {utf8 : Prop}

theorem validFields_iff : ValidFields fields ↔
    (∃ uris : List PyStr, uris ≠ [] ∧
      Json.get fields (lit "redirect_uris") = some (.arr (uris.map .str)) ∧
        ∀ uri ∈ uris, isLoopbackRedirect uri = .ok true) ∧
      ListsStr (lit "authorization_code") (requestedGrantTypes fields) ∧
        ListsStr (lit "code") (requestedResponseTypes fields) ∧
          (requestedAuthMethod fields).isStr (lit "none") = true := by
  have hdefault : ∀ s : PyStr, ListsStr s (.arr [.str s]) :=
    fun s => ⟨_, rfl, List.mem_cons_self⟩
  have hgrant := @forall_get_iff fields (lit "grant_types") _ _ (hdefault (lit "authorization_code"))
  have hresponse := @forall_get_iff fields (lit "response_types") _ _ (hdefault (lit "code"))
  have hauth := @forall_get_iff fields (lit "token_endpoint_auth_method") (.str (lit "none"))
    (fun value => value = .str (lit "none")) rfl
  rw [requestedGrantTypes, requestedResponseTypes, requestedAuthMethod, isStr_iff, ← hgrant,
    ← hresponse, ← hauth]
  constructor
  · rintro ⟨huris, hgrants, hresponses, hmethod⟩
    exact ⟨huris, hgrants, hresponses, hmethod⟩
  · rintro ⟨huris, hgrants, hresponses, hmethod⟩
    exact ⟨huris, hgrants, hresponses, hmethod⟩

/-- Loopback entries are the entries of a list of loopback URIs. -/
theorem forall_isLoopbackEntry_iff {entries : List Json} :
    (∀ entry ∈ entries, IsLoopbackEntry entry) ↔ ∃ uris : List PyStr,
      entries = uris.map .str ∧ ∀ uri ∈ uris, isLoopbackRedirect uri = .ok true := by
  constructor
  · intro h
    induction entries with
    | nil => exact ⟨[], rfl, by simp⟩
    | cons entry rest ih =>
      obtain ⟨hentry, hrest⟩ := List.forall_mem_cons.mp h
      obtain ⟨uri, rfl, htrue⟩ := hentry
      obtain ⟨uris, rfl, hall⟩ := ih hrest
      exact ⟨uri :: uris, rfl, List.forall_mem_cons.mpr ⟨htrue, hall⟩⟩
  · rintro ⟨uris, rfl, hall⟩ entry hentry
    obtain ⟨uri, huri, rfl⟩ := List.mem_map.mp hentry
    exact ⟨uri, rfl, hall uri huri⟩

theorem checkRedirectUris_of_loopback {entries : List Json}
    (h : ∀ entry ∈ entries, IsLoopbackEntry entry) :
    ∃ uris, checkRedirectUris entries = .ok (.inr uris) := by
  obtain ⟨uris, rfl, hall⟩ := forall_isLoopbackEntry_iff.mp h
  refine ⟨uris, checkRedirectUris_eq_inr.mpr ⟨?_, hall⟩⟩
  rw [List.map_map]
  rfl

theorem loopback_of_checkRedirectUris {entries : List Json} {uris : List PyStr}
    (h : checkRedirectUris entries = .ok (.inr uris)) : ∀ entry ∈ entries, IsLoopbackEntry entry := by
  obtain ⟨hentries, hall⟩ := checkRedirectUris_eq_inr.mp h
  intro entry hentry
  have hstr : entry.asStr ∈ uris.map some := by
    rw [← hentries]
    exact List.mem_map_of_mem hentry
  obtain ⟨uri, huri, hsome⟩ := List.mem_map.mp hstr
  cases entry with
  | str s =>
    obtain rfl := Option.some.inj hsome
    exact ⟨uri, rfl, hall uri huri⟩
  | _ => simp [Json.asStr] at hsome

/-- After the URIs, an object is handled exactly when the other values are readable. -/
theorem metadata_exact_iff (hall : ∃ uris : List PyStr, uris ≠ [] ∧
      Json.get fields (lit "redirect_uris") = some (.arr (uris.map .str)) ∧
        ∀ uri ∈ uris, isLoopbackRedirect uri = .ok true) :
    (Silent (checkMetadata fields) ∧ (checkMetadata fields = .ok none ↔ utf8 ∧ ValidFields fields)) ↔
      MetadataReadable utf8 fields := by
  rw [silent_checkMetadata_iff, checkMetadata_eq_none_iff, validFields_iff, listsStr_iff, listsStr_iff]
  unfold MetadataReadable
  constructor
  · rintro ⟨⟨hgrant, hresponse⟩, hiff⟩
    refine ⟨hgrant, fun hnamed => ⟨hresponse hnamed, fun hcode hauth => ?_⟩⟩
    obtain ⟨hutf8, -, ⟨hgrants, -⟩, ⟨hresponses, -⟩, -⟩ := hiff.mp ⟨hnamed, hcode, hauth⟩
    exact ⟨hgrants, hresponses, hutf8⟩
  · rintro ⟨hgrant, hnext⟩
    refine ⟨⟨hgrant, fun hnamed => (hnext hnamed).1⟩, ?_⟩
    constructor
    · rintro ⟨hnamed, hcode, hauth⟩
      obtain ⟨hgrants, hresponses, hutf8⟩ := (hnext hnamed).2 hcode hauth
      exact ⟨hutf8, hall, ⟨hgrants, hnamed⟩, ⟨hresponses, hcode⟩, hauth⟩
    · rintro ⟨-, -, ⟨-, hnamed⟩, ⟨-, hcode⟩, hauth⟩
      exact ⟨hnamed, hcode, hauth⟩

/-- What `validateFields` does with a list of URIs, by what the checks return. -/
theorem validateFields_eq {entry : Json} {rest : List Json}
    (hget : Json.get fields (lit "redirect_uris") = some (.arr (entry :: rest))) :
    validateFields fields =
      match checkRedirectUris (entry :: rest) with
      | .error e => .error e
      | .ok (.inl refused) => .ok (.inl (redirectUriError refused))
      | .ok (.inr redirectUris) =>
        match checkMetadata fields with
        | .error e => .error e
        | .ok (some response) => .ok (.inl response)
        | .ok none => .ok (.inr ⟨redirectUris, clientName fields⟩) := by
  unfold validateFields
  rw [hget]
  simp only []
  cases checkRedirectUris (entry :: rest) with
  | error e => rfl
  | ok found =>
    cases found with
    | inl refused => rfl
    | inr uris =>
      cases checkMetadata fields with
      | error e => rfl
      | ok response =>
        cases response with
        | none => rfl
        | some response => rfl

/-- Without a list of URIs there is an error. -/
theorem validateFields_of_no_list
    (h : ∀ entry rest, Json.get fields (lit "redirect_uris") ≠ some (.arr (entry :: rest))) :
    validateFields fields = .ok (.inl (registrationError (lit "invalid_redirect_uri")
      (lit "redirect_uris must be a non-empty array of URI strings"))) := by
  unfold validateFields
  split
  · next entry rest hget => exact absurd hget (h entry rest)
  · rfl

/-- With a list of URIs the fields are readable when the URIs are, and the other values after loopback
URIs. -/
theorem fieldsReadable_iff {entry : Json} {rest : List Json}
    (hget : Json.get fields (lit "redirect_uris") = some (.arr (entry :: rest))) :
    FieldsReadable utf8 fields ↔ Silent (checkRedirectUris (entry :: rest)) ∧
      ((∀ e ∈ entry :: rest, IsLoopbackEntry e) → MetadataReadable utf8 fields) := by
  rw [silent_checkRedirectUris_iff]
  constructor
  · intro h
    exact h _ (by simp) hget
  · rintro h entries - hentries
    obtain rfl : entry :: rest = entries := Json.arr.inj (Option.some.inj (hget.symm.trans hentries))
    exact h

/-- The URIs of valid fields are loopback URIs. -/
theorem loopback_of_validFields {entries : List Json}
    (hget : Json.get fields (lit "redirect_uris") = some (.arr entries)) (h : ValidFields fields) :
    ∀ e ∈ entries, IsLoopbackEntry e := by
  obtain ⟨uris, -, huris, hall⟩ := h.redirectUris
  have hentries := Json.arr.inj (Option.some.inj (hget.symm.trans huris))
  exact forall_isLoopbackEntry_iff.mpr ⟨uris, hentries, hall⟩

/-- Loopback URIs are the list of strings that valid fields ask for. -/
theorem uris_of_loopback {entry : Json} {rest : List Json}
    (hget : Json.get fields (lit "redirect_uris") = some (.arr (entry :: rest)))
    (h : ∀ e ∈ entry :: rest, IsLoopbackEntry e) : ∃ uris : List PyStr, uris ≠ [] ∧
      Json.get fields (lit "redirect_uris") = some (.arr (uris.map .str)) ∧
        ∀ uri ∈ uris, isLoopbackRedirect uri = .ok true := by
  obtain ⟨uris, hentries, hall⟩ := forall_isLoopbackEntry_iff.mp h
  refine ⟨uris, ?_, hentries ▸ hget, hall⟩
  rintro rfl
  simp at hentries

/-- An object is answered, and accepted exactly when it is valid. -/
def FieldsExact (utf8 : Prop) (fields : List (PyStr × Json)) : Prop :=
  (Refused (validateFields fields) ∨ Admitted (validateFields fields)) ∧
    (Admitted (validateFields fields) ↔ utf8 ∧ ValidFields fields)

/-- An error is an exact answer for fields that are not valid. -/
theorem FieldsExact.of_invalid {response : JsonResponse}
    (hfields : validateFields fields = .ok (.inl response)) (herror : IsRegistrationError response)
    (hinvalid : ¬ValidFields fields) : FieldsExact utf8 fields := by
  unfold FieldsExact
  rw [hfields]
  exact ⟨Or.inl (refused_inl_iff.mpr herror), iff_of_false not_admitted_inl fun h => hinvalid h.2⟩

theorem fieldsExact_iff_of_list {entry : Json} {rest : List Json}
    (hget : Json.get fields (lit "redirect_uris") = some (.arr (entry :: rest))) :
    FieldsExact utf8 fields ↔ FieldsReadable utf8 fields := by
  have hcode : lit "invalid_redirect_uri" ∈ rfcErrorCodes := by decide
  have heq := validateFields_eq hget
  rw [fieldsReadable_iff hget]
  cases hcheck : checkRedirectUris (entry :: rest) with
  | error e =>
    unfold FieldsExact
    simp [heq, hcheck]
  | ok found =>
    cases found with
    | inl refused =>
      have hnot : ¬∀ e ∈ entry :: rest, IsLoopbackEntry e := by
        intro hloopback
        obtain ⟨uris, huris⟩ := checkRedirectUris_of_loopback hloopback
        simp [hcheck] at huris
      rw [hcheck] at heq
      refine iff_of_true ?_ ⟨confined_ok _ _, fun h => absurd h hnot⟩
      exact .of_invalid heq ⟨_, _, hcode, rfl⟩ fun h => hnot (loopback_of_validFields hget h)
    | inr uris =>
      have hloopback := loopback_of_checkRedirectUris hcheck
      have hmetadata := @metadata_exact_iff _ fields utf8 (uris_of_loopback hget hloopback)
      rw [and_iff_right (confined_ok _ _), imp_iff_right hloopback, ← hmetadata]
      unfold FieldsExact
      rw [heq, hcheck]
      cases hmeta : checkMetadata fields with
      | error e => simp
      | ok response =>
        cases response with
        | none => simp
        | some response => simp [isRegistrationError_of_checkMetadata hmeta]

/-- Without a list of URIs the answer is an error, whatever the other fields are. -/
theorem fieldsExact_iff_of_no_list
    (hnone : ∀ entry rest, Json.get fields (lit "redirect_uris") ≠ some (.arr (entry :: rest))) :
    FieldsExact utf8 fields ↔ FieldsReadable utf8 fields := by
  have hcode : lit "invalid_redirect_uri" ∈ rfcErrorCodes := by decide
  have hinvalid : ¬ValidFields fields := by
    intro h
    obtain ⟨uris, hne, huris, -⟩ := h.redirectUris
    obtain ⟨uri, rest, rfl⟩ := List.exists_cons_of_ne_nil hne
    exact hnone _ _ huris
  refine iff_of_true (.of_invalid (validateFields_of_no_list hnone) ⟨_, _, hcode, rfl⟩ hinvalid) ?_
  intro entries hne hentries
  obtain ⟨entry, rest, rfl⟩ := List.exists_cons_of_ne_nil hne
  exact absurd hentries (hnone entry rest)

/-- An object is answered, and accepted exactly when it is valid, when its fields are readable. -/
theorem fieldsExact_iff : FieldsExact utf8 fields ↔ FieldsReadable utf8 fields := by
  by_cases hlist : ∃ entry rest,
      Json.get fields (lit "redirect_uris") = some (.arr (entry :: rest))
  · obtain ⟨entry, rest, hget⟩ := hlist
    exact fieldsExact_iff_of_list hget
  · refine fieldsExact_iff_of_no_list fun entry rest hget => ?_
    exact hlist ⟨entry, rest, hget⟩

end Fields

/-! ## The law -/

section Law

variable [UnicodeDatabase] {reader : BodyReader} {body : List Byte}

/-- A valid body is read as its fields. -/
theorem loads_of_validBody (h : ValidBody reader body) :
    ∃ fields, Json.loads reader.json body = .ok (.obj fields) ∧ IsUtf8 body ∧ ValidFields fields := by
  obtain ⟨text, fields, htext, hdecode, hvalid⟩ := h
  obtain ⟨hdetect, hloads⟩ := Json.loads_of_utf8 htext hdecode
  have hsome : (decodeUtf8 body).isSome = true := by
    rw [htext]
    rfl
  exact ⟨fields, hloads, ⟨hdetect, hsome⟩, hvalid⟩

/-- An object is valid exactly when it is UTF-8 and its fields are valid. -/
theorem validBody_iff {fields : List (PyStr × Json)}
    (hloads : Json.loads reader.json body = .ok (.obj fields)) :
    ValidBody reader body ↔ IsUtf8 body ∧ ValidFields fields := by
  constructor
  · intro h
    obtain ⟨fields', hloads', hutf8, hvalid⟩ := loads_of_validBody h
    obtain rfl := Json.obj.inj (Except.ok.inj (hloads.symm.trans hloads'))
    exact ⟨hutf8, hvalid⟩
  · rintro ⟨⟨hdetect, hsome⟩, hvalid⟩
    obtain ⟨text, htext⟩ := Option.isSome_iff_exists.mp hsome
    exact ⟨text, fields, htext, (Json.loads_eq_decode hdetect htext).symm.trans hloads, hvalid⟩

/-- A body that is no object is answered with an error. -/
theorem validateRegistration_of_other {value : Json} (h : ∀ fields, value ≠ .obj fields) :
    validateRegistration (.ok value) = .ok (.inl (registrationError (lit "invalid_client_metadata")
      (lit "Request body must be a JSON object"))) := by
  cases value with
  | obj fields => exact absurd rfl (h fields)
  | _ => rfl

/-- A body that does not load is answered when its syntax is to blame. -/
theorem registrationExact_iff_of_error {e : LoadsError}
    (hloads : Json.loads reader.json body = .error e) :
    RegistrationExact reader body ↔ BodyReadable reader body := by
  have hcode : lit "invalid_client_metadata" ∈ rfcErrorCodes := by decide
  have hinvalid : ¬ValidBody reader body := by
    intro h
    obtain ⟨fields, hfields, -⟩ := loads_of_validBody h
    simp [hloads] at hfields
  have hreadable : BodyReadable reader body ↔ e = .syntactic := by
    constructor
    · exact fun h => h.loads e hloads
    · rintro rfl
      constructor
      · intro e' he'
        exact (Except.error.inj (hloads.symm.trans he')).symm
      · intro fields hfields
        simp [hloads] at hfields
  unfold RegistrationExact readBody
  rw [hreadable, hloads]
  cases e with
  | syntactic =>
    refine iff_of_true ⟨Or.inl ?_, iff_of_false not_admitted_inl hinvalid⟩ rfl
    exact refused_inl_iff.mpr ⟨_, _, hcode, rfl⟩
  | unicode => simp [Except.mapError, loadsExc, validateRegistration]
  | recursion => simp [Except.mapError, loadsExc, validateRegistration]
  | tooLong => simp [Except.mapError, loadsExc, validateRegistration]

/-- An object is handled as its fields are. -/
theorem registrationExact_iff_of_obj {fields : List (PyStr × Json)}
    (hloads : Json.loads reader.json body = .ok (.obj fields)) :
    RegistrationExact reader body ↔ BodyReadable reader body := by
  have hreadable : BodyReadable reader body ↔ FieldsReadable (IsUtf8 body) fields := by
    constructor
    · exact fun h => h.fields fields hloads
    · intro h
      constructor
      · intro e he
        simp [hloads] at he
      · intro fields' hfields'
        obtain rfl := Json.obj.inj (Except.ok.inj (hloads.symm.trans hfields'))
        exact h
  unfold RegistrationExact readBody
  rw [hreadable, hloads, validBody_iff hloads]
  exact fieldsExact_iff

/-- Another value is an error, and no valid body loads to one. -/
theorem registrationExact_iff_of_other {value : Json} (hother : ∀ fields, value ≠ .obj fields)
    (hloads : Json.loads reader.json body = .ok value) :
    RegistrationExact reader body ↔ BodyReadable reader body := by
  have hcode : lit "invalid_client_metadata" ∈ rfcErrorCodes := by decide
  have hinvalid : ¬ValidBody reader body := by
    intro h
    obtain ⟨fields, hfields, -⟩ := loads_of_validBody h
    exact hother fields (Except.ok.inj (hloads.symm.trans hfields))
  have hrefused : validateRegistration ((Except.ok value).mapError fun e =>
      loadsExc (reader.errorText body e) e) = .ok (.inl (registrationError
        (lit "invalid_client_metadata") (lit "Request body must be a JSON object"))) :=
    validateRegistration_of_other hother
  unfold RegistrationExact readBody
  rw [hloads, hrefused]
  refine iff_of_true ⟨Or.inl ?_, iff_of_false not_admitted_inl hinvalid⟩ ?_
  · exact refused_inl_iff.mpr ⟨_, _, hcode, rfl⟩
  · constructor
    · intro e he
      simp [hloads] at he
    · intro fields hfields
      exact absurd (Except.ok.inj (hloads.symm.trans hfields)) (hother fields)

/-- Every body is answered, and accepted exactly when it is valid, if and only if it is readable. -/
theorem registration_exact_iff (reader : BodyReader) (body : List Byte) :
    RegistrationExact reader body ↔ BodyReadable reader body := by
  cases hloads : Json.loads reader.json body with
  | error e => exact registrationExact_iff_of_error hloads
  | ok value =>
    by_cases hobject : ∃ fields, value = .obj fields
    · obtain ⟨fields, rfl⟩ := hobject
      exact registrationExact_iff_of_obj hloads
    · refine registrationExact_iff_of_other (fun fields h => ?_) hloads
      exact hobject ⟨fields, h⟩

end Law

/-! ## Examples -/

/-- The bytes of an ASCII text. -/
def asciiBytes (s : String) : List Byte := s.toList.map fun c => Fin.ofNat 256 c.toNat

/-- A reader under the default recursion limit. -/
def exampleReader : BodyReader where
  json := ⟨900, fun s => s⟩
  errorText _ _ := []

/-- A body with one loopback URI, and more members behind it. -/
def bodyWith (more : String) : List Byte :=
  asciiBytes "\x7b\"redirect_uris\":[\"http://localhost\"]" ++ asciiBytes more ++ asciiBytes "\x7d"

/-- The same body in UTF-16. -/
def inUtf16 (body : List Byte) : List Byte := body.flatMap fun b => [b, 0]

/-- What a check raises. -/
def raised {α : Type} : Except PyExc α → Option PyExc
  | .error e => some e
  | .ok _ => none

instance decidableAdmitted : (result : Except PyExc (JsonResponse ⊕ Registration)) →
    Decidable (Admitted result)
  | .error _ => isFalse not_admitted_error
  | .ok (.inl _) => isFalse not_admitted_inl
  | .ok (.inr _) => isTrue admitted_inr

/-- A member of a document that is a string. -/
def memberStr (key : PyStr) : Except LoadsError Json → Option PyStr
  | .ok (.obj fields) => (Json.get fields key).bind Json.asStr
  | _ => none

/-- What raises is neither answered nor accepted. -/
theorem not_answered_of_raised {result : Except PyExc (JsonResponse ⊕ Registration)} {e : PyExc}
    (h : raised result = some e) : ¬(Refused result ∨ Admitted result) := by
  cases result with
  | error e' => simp
  | ok verdict => simp [raised] at h

/-- A body with an open bracket in its URI. -/
def openBracketBody : List Byte := asciiBytes "\x7b\"redirect_uris\":[\"http://[::1\"]\x7d"

/-- Validation is not exact.  A URI with an open bracket, a number for `grant_types` and bytes that do
not decode raise; a string for `grant_types` and a body in UTF-16 are accepted, and are not valid. -/
theorem registration_not_exact :
    (¬∀ (_ : UnicodeDatabase) (reader : BodyReader) (body : List Byte), body.length ≤ 0x10000 →
      RegistrationExact reader body) ∧
    letI := asciiDatabase
    raised (validateRegistration (readBody exampleReader openBracketBody)) =
      some (.valueError (lit "Invalid IPv6 URL")) ∧
    raised (validateRegistration (readBody exampleReader (bodyWith ",\"grant_types\":5"))) =
      some (.typeError (lit "argument of type 'int' is not iterable")) ∧
    raised (validateRegistration (readBody exampleReader [0xff])) = some (.unicodeError []) ∧
    ∀ body ∈ [bodyWith ",\"grant_types\":\"authorization_code\"", inUtf16 (bodyWith "")],
      Admitted (validateRegistration (readBody exampleReader body)) ∧
        ¬ValidBody exampleReader body := by
  let _ := asciiDatabase
  have hbracket : raised (validateRegistration (readBody exampleReader openBracketBody)) =
      some (.valueError (lit "Invalid IPv6 URL")) := by decide +kernel
  refine ⟨fun hexact => ?_, hbracket, by decide +kernel, by decide +kernel, ?_⟩
  · have hanswered := (hexact asciiDatabase exampleReader openBracketBody (by decide)).1
    exact not_answered_of_raised hbracket hanswered
  rw [List.forall_mem_cons, List.forall_mem_singleton]
  refine ⟨⟨by decide +kernel, ?_⟩, by decide +kernel, ?_⟩
  · intro h
    obtain ⟨fields, hloads, -, hvalid⟩ := loads_of_validBody h
    have hmember : memberStr (lit "grant_types") (Json.loads exampleReader.json
        (bodyWith ",\"grant_types\":\"authorization_code\"")) = some (lit "authorization_code") := by
      decide +kernel
    rw [hloads, memberStr] at hmember
    obtain ⟨value, hvalue, hstr⟩ := Option.bind_eq_some_iff.mp hmember
    obtain ⟨items, rfl, -⟩ := hvalid.grantTypes value hvalue
    simp [Json.asStr] at hstr
  · intro h
    obtain ⟨fields, -, ⟨hdetect, -⟩, -⟩ := loads_of_validBody h
    revert hdetect
    decide +kernel

end McpSql
