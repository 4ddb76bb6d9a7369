import McpSql.Foundations.Raising
import McpSql.Registration.Register

/-!
# Stored redirect URIs

`register_client` checks each submitted URI with `urlparse` and stores the list joined by spaces;
django-oauth-toolkit reads the column back with `str.split()`.  What is read back is what was
submitted, and loopback throughout, exactly when no submitted URI contains whitespace.
-/

namespace McpSql

open Python PyStr Effect Raising

/-- A list on which a partial function is defined throughout. -/
theorem filterMap_of_map_eq {α β : Type} {f : α → Option β} {xs : List α} {ys : List β}
    (h : xs.map f = ys.map some) : xs.filterMap f = ys := by
  have hid : xs.filterMap f = (xs.map f).filterMap id := by
    rw [List.filterMap_map]
    rfl
  rw [hid, h, List.filterMap_map]
  exact List.filterMap_some

section Redirects

variable [UnicodeDatabase]

/-! ## What validation accepts -/

/-- The empty string is no redirect URI. -/
theorem isLoopbackRedirect_nil : isLoopbackRedirect [] = .ok false := rfl

theorem ne_nil_of_isLoopbackRedirect {uri : PyStr} (h : isLoopbackRedirect uri = .ok true) :
    uri ≠ [] := by
  rintro rfl
  rw [isLoopbackRedirect_nil] at h
  simp at h

/-- The loop over `redirect_uris` returns the URIs of a list of loopback strings. -/
theorem checkRedirectUris_eq_inr {entries : List Json} {uris : List PyStr} :
    checkRedirectUris entries = .ok (.inr uris) ↔
      entries.map Json.asStr = uris.map some ∧ ∀ u ∈ uris, isLoopbackRedirect u = .ok true := by
  induction entries generalizing uris with
  | nil =>
    rw [checkRedirectUris]
    constructor
    · intro h
      obtain rfl : [] = uris := by simpa using h
      simp
    · rintro ⟨h, -⟩
      obtain rfl : uris = [] := by simpa using h
      rfl
  | cons entry rest ih =>
    rw [checkRedirectUris]
    cases hentry : entry.asStr with
    | none =>
      constructor
      · intro h
        simp at h
      · rintro ⟨h, -⟩
        cases uris <;> simp [hentry] at h
    | some uri =>
      simp only [bind_eq_ok]
      constructor
      · rintro ⟨loopback, hcheck, h⟩
        cases loopback with
        | false => simp [pure, Except.pure] at h
        | true =>
          obtain ⟨found, hrest, h⟩ := bind_eq_ok.mp h
          cases found with
          | inl refused => simp [pure, Except.pure] at h
          | inr others =>
            obtain rfl : uri :: others = uris := by simpa [pure, Except.pure] using h
            obtain ⟨hothers, hall⟩ := ih.mp hrest
            exact ⟨by simp [hentry, hothers], by simpa using ⟨hcheck, hall⟩⟩
      · rintro ⟨hentries, hall⟩
        cases uris with
        | nil => simp at hentries
        | cons first others =>
          obtain ⟨rfl, hothers⟩ : uri = first ∧ rest.map Json.asStr = others.map some := by
            simpa [hentry] using hentries
          have hcheck := hall uri (by simp)
          have hrest := ih.mpr ⟨hothers, fun u hu => hall u (by simp [hu])⟩
          refine ⟨true, hcheck, ?_⟩
          rw [if_pos rfl, hrest]
          rfl

/-- The URIs a request body submits. -/
def submittedUris (body : Except PyExc Json) : List PyStr :=
  match body with
  | .ok (.obj fields) =>
    match Json.get fields (lit "redirect_uris") with
    | some (.arr entries) => entries.filterMap Json.asStr
    | _ => []
  | _ => []

/-- A valid object registers the URIs it submits, all of them loopback. -/
theorem redirectUris_of_validateFields {fields : List (PyStr × Json)} {registration : Registration}
    (h : validateFields fields = .ok (.inr registration)) :
    registration.redirectUris = submittedUris (.ok (.obj fields)) ∧
      ∀ u ∈ registration.redirectUris, isLoopbackRedirect u = .ok true := by
  unfold validateFields at h
  split at h
  · next entry rest hget =>
      obtain ⟨found, hcheck, h⟩ := bind_eq_ok.mp h
      cases found with
      | inl refused => simp [pure, Except.pure] at h
      | inr uris =>
        obtain ⟨response, -, h⟩ := bind_eq_ok.mp h
        cases response with
        | some response => simp [pure, Except.pure] at h
        | none =>
          obtain rfl : Registration.mk uris (clientName fields) = registration := by
            simpa [pure, Except.pure] using h
          obtain ⟨hentries, hall⟩ := checkRedirectUris_eq_inr.mp hcheck
          refine ⟨?_, hall⟩
          rw [submittedUris, hget]
          exact (filterMap_of_map_eq hentries).symm
  · simp [pure, Except.pure] at h

/-- An accepted body registers the URIs it submits, all of them loopback. -/
theorem redirectUris_of_validateRegistration {body : Except PyExc Json}
    {registration : Registration} (h : validateRegistration body = .ok (.inr registration)) :
    registration.redirectUris = submittedUris body ∧
      ∀ u ∈ registration.redirectUris, isLoopbackRedirect u = .ok true := by
  cases body with
  | error e => cases e <;> simp [validateRegistration] at h
  | ok value =>
    cases value with
    | obj fields => exact redirectUris_of_validateFields h
    | _ => simp [validateRegistration] at h

/-! ## What is stored and read back -/

/-- A request leaves a row behind, whether it then answers or raises. -/
def Stores (settings : Settings) (faults : CacheFaults) (env : RegisterEnv)
    (request : RegisterRequest) (w : World) (row : Application) : Prop :=
  (finalState ((registerClient settings faults env request).run w)).applications =
    w.applications ++ [row]

/-- Only a valid request leaves a row behind, with the submitted URIs joined by spaces. -/
theorem redirectUris_of_stores {settings : Settings} {faults : CacheFaults} {env : RegisterEnv}
    {request : RegisterRequest} {w : World} {row : Application}
    (h : Stores settings faults env request w row) :
    row.redirectUris = joinSpace (submittedUris request.body) ∧
      ∀ u ∈ submittedUris request.body, isLoopbackRedirect u = .ok true := by
  unfold Stores registerClient at h
  cases hvalid : validateRegistration request.body with
  | error e => simp [hvalid] at h
  | ok result =>
    cases result with
    | inl response => simp [hvalid] at h
    | inr registration =>
      simp only [hvalid] at h
      obtain ⟨huris, hall⟩ := redirectUris_of_validateRegistration hvalid
      rcases applications_storeRegistration settings faults env request registration w with
        hsame | hadded
      · exact absurd (hsame.symm.trans h) (by simp)
      · obtain rfl : applicationRow (newClientId settings env) registration = row := by
          simpa using hadded.symm.trans h
        rw [huris] at hall
        exact ⟨by rw [← huris]; rfl, hall⟩

/-- The URIs django-oauth-toolkit reads from a stored row. -/
def storedUris (row : Application) : List PyStr := split row.redirectUris

/-- A stored row decodes to the submitted URIs, every one of them loopback. -/
def RedirectsFaithful (request : RegisterRequest) (row : Application) : Prop :=
  storedUris row = submittedUris request.body ∧
    ∀ u ∈ storedUris row, isLoopbackRedirect u = .ok true

/-! ## When the column is faithful -/

/-- A stored row decodes to the submitted loopback URIs exactly when none of them contains
whitespace. -/
theorem redirects_faithful_iff (settings : Settings) (faults : CacheFaults) (env : RegisterEnv)
    (request : RegisterRequest) (w : World) (row : Application)
    (h : Stores settings faults env request w row) :
    RedirectsFaithful request row ↔ ∀ u ∈ submittedUris request.body, NoSpace u := by
  obtain ⟨hjoined, hall⟩ := redirectUris_of_stores h
  have hne : ∀ u ∈ submittedUris request.body, u ≠ [] :=
    fun u hu => ne_nil_of_isLoopbackRedirect (hall u hu)
  have hsplit : storedUris row = submittedUris request.body ↔
      ∀ u ∈ submittedUris request.body, NoSpace u := by
    rw [storedUris, hjoined]
    exact split_joinSpace_eq_iff hne
  constructor
  · rintro ⟨hsame, -⟩
    exact hsplit.mp hsame
  · intro hspace
    have hsame := hsplit.mpr hspace
    refine ⟨hsame, ?_⟩
    rw [hsame]
    exact hall

end Redirects

/-- The row a registration of one URI leaves behind. -/
def exampleRow (uri : String) : Application :=
  applicationRow (newClientId exampleSettings exampleRegisterEnv)
    ⟨[lit uri], .str (lit "Unnamed MCP client")⟩

theorem redirects_faithful_iff_callback :
    letI := asciiDatabase
    RedirectsFaithful (registrationOf "http://127.0.0.1:3456/callback")
        (exampleRow "http://127.0.0.1:3456/callback") ↔
      ∀ u ∈ submittedUris (registrationOf "http://127.0.0.1:3456/callback").body, NoSpace u :=
  letI := asciiDatabase
  redirects_faithful_iff exampleSettings healthyCache exampleRegisterEnv
    (registrationOf "http://127.0.0.1:3456/callback") emptyWorld
    (exampleRow "http://127.0.0.1:3456/callback") (by unfold Stores; rfl)

/-- An accepted URI with a space in it becomes two stored URIs, one of them on a foreign host. -/
theorem redirects_not_always_faithful :
    ¬∀ (_ : UnicodeDatabase) (settings : Settings) (faults : CacheFaults) (env : RegisterEnv)
        (request : RegisterRequest) (w : World) (row : Application),
      Stores settings faults env request w row → RedirectsFaithful request row := by
  intro hfaithful
  let _ := asciiDatabase
  have hstored : Stores exampleSettings healthyCache exampleRegisterEnv
      (registrationOf "http://127.0.0.1/ http://evil.example/cb") emptyWorld
      (exampleRow "http://127.0.0.1/ http://evil.example/cb") := by
    unfold Stores
    rfl
  have hevil : lit "http://evil.example/cb" ∈
      storedUris (exampleRow "http://127.0.0.1/ http://evil.example/cb") := by decide
  have hforeign : isLoopbackRedirect (lit "http://evil.example/cb") ≠ .ok true := by decide
  obtain ⟨-, hall⟩ := hfaithful asciiDatabase _ _ _ _ _ _ hstored
  exact hforeign (hall _ hevil)

end McpSql
