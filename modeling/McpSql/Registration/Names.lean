import McpSql.Auth.Logout
import McpSql.Python.Base64
import McpSql.Registration.Register

/-!
# Names of applications

Four places spell the names of MCP applications: the registration that mints them
(`views/registration.py`), the provisioning of cloud clients (`signals.py`), the predicate that
recognises them (`consts.py`) and the filter of the revocation at logout (`signals.py`).  What is
minted or provisioned is recognised, what is recognised is revoked, and a cloud client that is not
declared is not recognised.
-/

namespace McpSql

open Python PyStr Effect

/-! ## Provisioning the cloud clients -/

/-- The row of a cloud client. -/
def cloudApplicationRow (client : CloudClient) : Application where
  name := client.clientId
  clientId := client.clientId
  clientSecret := []
  clientType := lit "public"
  authorizationGrantType := lit "authorization-code"
  skipAuthorization := false
  redirectUris := client.redirectUri
  algorithm := []

/-- `Application.objects.update_or_create` on the unique `client_id`. -/
def updateOrCreate (row : Application) (applications : List Application) : List Application :=
  if applications.any (·.clientId = row.clientId) then
    applications.map fun a => if a.clientId = row.clientId then row else a
  else applications ++ [row]

/-- `provision_mcp_cloud_clients`, for the label of the sender and the alias it is called with. -/
def provisionMcpCloudClients (settings : Settings) (sender usingAlias : Option PyStr)
    (applications : List Application) : List Application :=
  if sender ≠ some (lit "mcp_sql") then applications
  else if usingAlias.any fun alias' => alias' ≠ [] && alias' ≠ lit "default" then applications
  else (cloudClients settings).foldl
    (fun rows client => updateOrCreate (cloudApplicationRow client) rows) applications

/-- What is in the table afterwards was there before, or was written. -/
theorem mem_updateOrCreate {row a : Application} {applications : List Application}
    (h : a ∈ updateOrCreate row applications) : a ∈ applications ∨ a = row := by
  unfold updateOrCreate at h
  split_ifs at h with hany
  · obtain ⟨b, hb, hmap⟩ := List.mem_map.mp h
    by_cases hid : b.clientId = row.clientId
    · rw [if_pos hid] at hmap
      exact Or.inr hmap.symm
    · rw [if_neg hid] at hmap
      exact Or.inl (hmap ▸ hb)
  · rcases List.mem_append.mp h with hold | hnew
    · exact Or.inl hold
    · exact Or.inr (List.mem_singleton.mp hnew)

/-- Provisioning writes the rows of the declared clients, when the signal is this app's. -/
theorem mem_provisionMcpCloudClients {settings : Settings} {sender usingAlias : Option PyStr}
    {a : Application} {applications : List Application}
    (h : a ∈ provisionMcpCloudClients settings sender usingAlias applications) :
    a ∈ applications ∨ sender = some (lit "mcp_sql") ∧
      ∃ client ∈ cloudClients settings, a = cloudApplicationRow client := by
  unfold provisionMcpCloudClients at h
  split_ifs at h with hsender
  · exact Or.inl h
  · exact Or.inl h
  · refine Or.imp_right (And.intro (not_not.mp hsender)) ?_
    generalize cloudClients settings = clients at h ⊢
    induction clients generalizing applications with
    | nil => exact Or.inl h
    | cons client rest ih =>
      rw [List.foldl_cons] at h
      rcases ih h with hbefore | ⟨client', hclient, hrow⟩
      · rcases mem_updateOrCreate hbefore with hold | hnew
        · exact Or.inl hold
        · exact Or.inr ⟨client, List.mem_cons_self, hnew⟩
      · exact Or.inr ⟨client', List.mem_cons_of_mem _ hclient, hrow⟩

/-! ## Which names are recognised -/

theorem isMcpApplicationName_iff (settings : Settings) (name : PyStr) :
    isMcpApplicationName settings name = true ↔ name = settings.applicationName ∨
      (∃ client ∈ cloudClients settings, client.clientId = name) ∨
      ∃ suffix, name = settings.applicationNamePrefix ++ suffix ∧ suffix.length = 22 ∧
        ∀ c ∈ suffix, isUrlsafe c = true := by
  unfold isMcpApplicationName
  by_cases hname : name = settings.applicationName
  · simp [hname]
  by_cases hcloud : (cloudClients settings).any (·.clientId = name) = true
  · rw [if_neg hname, if_pos hcloud]
    obtain ⟨client, hclient, hid⟩ := List.any_eq_true.mp hcloud
    exact iff_of_true rfl (Or.inr (Or.inl ⟨client, hclient, of_decide_eq_true hid⟩))
  · have hnone : ¬∃ client ∈ cloudClients settings, client.clientId = name := by
      rintro ⟨client, hclient, hid⟩
      exact hcloud (List.any_eq_true.mpr ⟨client, hclient, decide_eq_true hid⟩)
    rw [if_neg hname, if_neg hcloud, or_iff_right hname, or_iff_right hnone]
    simp only [startsWith, Bool.and_eq_true, List.isPrefixOf_iff_prefix, decide_eq_true_eq,
      List.all_eq_true]
    constructor
    · rintro ⟨⟨suffix, rfl⟩, hlength, hurlsafe⟩
      rw [List.drop_left] at hlength hurlsafe
      exact ⟨suffix, rfl, hlength, hurlsafe⟩
    · rintro ⟨suffix, rfl, hlength, hurlsafe⟩
      rw [List.drop_left]
      exact ⟨List.prefix_append _ _, hlength, hurlsafe⟩

/-- A digit of a token is a character the predicate accepts. -/
theorem isUrlsafe_of_isDigit {c : CodePoint} (h : Base64.IsDigit c) : isUrlsafe c = true := by
  obtain ⟨n, hn, rfl⟩ := h
  revert n
  decide

/-- A name minted from 16 bytes is recognised. -/
theorem recognised_of_minted (settings : Settings) {bytes : List Byte} (h : bytes.length = 16) :
    isMcpApplicationName settings (settings.applicationNamePrefix ++ tokenUrlsafe bytes) = true := by
  obtain ⟨hlength, hdigits⟩ := Base64.tokenUrlsafe_spec bytes
  rw [isMcpApplicationName_iff]
  refine Or.inr (Or.inr ⟨_, rfl, ?_, fun c hc => isUrlsafe_of_isDigit (hdigits c hc)⟩)
  rw [hlength, h]

/-- The name of a declared cloud client is recognised. -/
theorem recognised_of_cloudClient {settings : Settings} {client : CloudClient}
    (h : client ∈ cloudClients settings) : isMcpApplicationName settings client.clientId = true :=
  (isMcpApplicationName_iff settings _).mpr (Or.inr (Or.inl ⟨client, h, rfl⟩))

/-- The name a cloud client would have is recognised only while the client is declared: the dot in it
belongs to no minted name. -/
theorem not_recognised_of_undeclared {settings : Settings} {slug : PyStr}
    (hslug : slug ∉ settings.cloudClientEntries.map CloudClientEntry.name)
    (hname : settings.applicationNamePrefix ++ lit "cloud." ++ slug ≠ settings.applicationName) :
    isMcpApplicationName settings (settings.applicationNamePrefix ++ lit "cloud." ++ slug) =
      false := by
  rw [Bool.eq_false_iff]
  intro hrecognised
  rcases (isMcpApplicationName_iff settings _).mp hrecognised with
    hcanonical | ⟨client, hclient, hid⟩ | ⟨suffix, hsuffix, -, hurlsafe⟩
  · exact hname hcanonical
  · obtain ⟨entry, hentry, rfl⟩ := List.mem_map.mp hclient
    have hentryName : entry.name = slug := List.append_cancel_left hid
    exact hslug (List.mem_map.mpr ⟨entry, hentry, hentryName⟩)
  · rw [List.append_assoc] at hsuffix
    obtain rfl : lit "cloud." ++ slug = suffix := List.append_cancel_left hsuffix
    have hdot : ofChar '.' ∈ lit "cloud." ++ slug := List.mem_append_left _ (by decide)
    exact absurd (hurlsafe _ hdot) (by decide)

/-! ## Mint, recognise and revoke agree -/

/-- The names of applications agree for all settings. -/
structure NamesAgree [UnicodeDatabase] (settings : Settings) : Prop where
  minted : ∀ bytes : List Byte, bytes.length = 16 →
    isMcpApplicationName settings (settings.applicationNamePrefix ++ tokenUrlsafe bytes) = true
  registered : ∀ (bytes : List Byte) (env : RegisterEnv) (faults : CacheFaults)
    (request : RegisterRequest) (w : World), bytes.length = 16 →
    env.tokenUrlsafe = tokenUrlsafe bytes →
    ∀ row ∈ (finalState ((registerClient settings faults env request).run w)).applications,
      row ∈ w.applications ∨ isMcpApplicationName settings row.name = true
  provisioned : ∀ sender usingAlias applications,
    ∀ row ∈ provisionMcpCloudClients settings sender usingAlias applications,
      row ∈ applications ∨ isMcpApplicationName settings row.name = true
  revoked : ∀ name, isMcpApplicationName settings name = true → isRevokedName settings name = true
  removed : ∀ slug, slug ∉ settings.cloudClientEntries.map CloudClientEntry.name →
    settings.applicationNamePrefix ++ lit "cloud." ++ slug ≠ settings.applicationName →
    isMcpApplicationName settings (settings.applicationNamePrefix ++ lit "cloud." ++ slug) = false

/-- What is minted or provisioned is recognised, what is recognised is revoked, and what is removed
is no longer recognised. -/
theorem names_agree [UnicodeDatabase] (settings : Settings) : NamesAgree settings := by
  refine ⟨fun bytes => recognised_of_minted settings, ?_, ?_,
    fun name => isRevokedName_of_recognised, fun slug => not_recognised_of_undeclared⟩
  · intro bytes env faults request w hbytes htoken row hrow
    have hminted : isMcpApplicationName settings (newClientId settings env) = true := by
      unfold newClientId
      rw [htoken]
      exact recognised_of_minted settings hbytes
    unfold registerClient at hrow
    cases hvalidate : validateRegistration request.body with
    | error e =>
      rw [hvalidate] at hrow
      exact Or.inl hrow
    | ok verdict =>
      rw [hvalidate] at hrow
      cases verdict with
      | inl response => exact Or.inl hrow
      | inr registration =>
        rcases applications_storeRegistration settings faults env request registration w with
          hsame | hadded
        · exact Or.inl (hsame ▸ hrow)
        · rcases List.mem_append.mp (hadded ▸ hrow) with hold | hnew
          · exact Or.inl hold
          · rw [List.mem_singleton.mp hnew]
            exact Or.inr hminted
  · intro sender usingAlias applications row hrow
    rcases mem_provisionMcpCloudClients hrow with hold | ⟨-, client, hclient, rfl⟩
    · exact Or.inl hold
    · exact Or.inr (recognised_of_cloudClient hclient)

end McpSql
