import McpSql.Startup.Checks
import McpSql.Validation

/-!
# The startup check

`validate_mcp_sql_settings` (`validation.py`) on the values the mapping holds.  `TypeAdapter` coerces a
copy and drops it: what it accepts has the shape of `McpSqlSettings`, with values that need not be of
the declared types, and all later code reads these values.
-/

namespace McpSql

open Python PyStr Raising

/-! ## Raw settings -/

/-- `MCP_SQL["LIMITS"]`: the three limits, and perhaps other items. -/
structure RawLimits where
  items : List (PyObject × PyObject)
  defaultLimit : PyObject
  hardLimit : PyObject
  bytesLimit : PyObject
  default_mem : (.str (lit "DEFAULT_LIMIT"), defaultLimit) ∈ items
  hard_mem : (.str (lit "HARD_LIMIT"), hardLimit) ∈ items
  bytes_mem : (.str (lit "BYTES_LIMIT"), bytesLimit) ∈ items

/-- An entry of `MCP_SQL["PROFILES"]`; a missing `SESSION_CONTEXT` is `None`. -/
structure RawProfile where
  role : PyObject
  codename : PyObject
  groupName : PyObject
  sessionContext : PyObject := .none
  allowedModels : List PyObject

/-- An entry of `MCP_SQL["CLOUD_CLIENTS"]`. -/
structure RawCloudClient where
  name : PyObject
  redirectMatch : PyObject
  redirectUri : PyObject

/-- The values of a mapping that has the shape of `McpSqlSettings`. -/
structure RawSettings where
  limits : RawLimits
  volumeAlertThresholds : List (PyObject × List (PyObject × PyObject))
  badTokenIpThreshold : PyObject
  badTokenIpWindowSeconds : PyObject
  profiles : List (PyObject × RawProfile)
  cloudClients : List RawCloudClient := []

/-- A field that `_validate_profiles` requires and keeps unique. -/
structure RawProfileField where
  name : PyStr
  get : RawProfile → PyObject

/-- The fields of `seen`, in order. -/
def rawProfileFields : List RawProfileField :=
  [⟨lit "ROLE", RawProfile.role⟩, ⟨lit "PERMISSION_CODENAME", RawProfile.codename⟩,
    ⟨lit "GROUP_NAME", RawProfile.groupName⟩]

/-! ## The checks -/

/-- `val <= 0` in `LIMITS`. -/
def positiveLimit (key val : PyObject) : Check where
  condition := .compares .le val (.int 0)
  message := [.text (lit "MCP_SQL.LIMITS."), .shown key, .text (lit " must be positive (got "),
    .shown val, .text (lit ")")]

/-- `DEFAULT_LIMIT > HARD_LIMIT`. -/
def defaultWithinHard (limits : RawLimits) : Check where
  condition := .compares .gt limits.defaultLimit limits.hardLimit
  message := [.text (lit "MCP_SQL.LIMITS.DEFAULT_LIMIT ("), .shown limits.defaultLimit,
    .text (lit ") must not exceed HARD_LIMIT ("), .shown limits.hardLimit, .text (lit ")")]

/-- A key of `VOLUME_ALERT_THRESHOLDS`. -/
def knownDecision (decision : PyObject) : Check where
  condition := .absent decision [.str (lit "allowed"), .str (lit "rejected")]
  message := [.text (lit "MCP_SQL.VOLUME_ALERT_THRESHOLDS key "), .quoted decision,
    .text (lit " must be one of ['allowed', 'rejected']")]

/-- `window <= 0`. -/
def positiveWindow (decision window : PyObject) : Check where
  condition := .compares .le window (.int 0)
  message := [.text (lit "MCP_SQL.VOLUME_ALERT_THRESHOLDS["), .quoted decision,
    .text (lit "] window "), .shown window, .text (lit " must be a positive number of seconds")]

/-- `threshold <= 0`. -/
def positiveThreshold (decision window threshold : PyObject) : Check where
  condition := .compares .le threshold (.int 0)
  message := [.text (lit "MCP_SQL.VOLUME_ALERT_THRESHOLDS["), .quoted decision, .text (lit "]["),
    .shown window, .text (lit "] threshold "), .shown threshold, .text (lit " must be positive")]

/-- A number of the settings itself. -/
def positiveSetting (name : PyStr) (val : PyObject) : Check where
  condition := .compares .le val (.int 0)
  message := [.text (lit "MCP_SQL." ++ name ++ lit " must be positive (got "), .shown val,
    .text (lit ")")]

/-- `not profiles`. -/
def someProfile (profiles : List (PyObject × RawProfile)) : Check where
  condition := .empty profiles.length
  message := [.text (lit "MCP_SQL.PROFILES must declare at least one profile")]

/-- `MCP_SQL.PROFILES[name].field`. -/
def rawProfilePath (name : PyObject) (field : PyStr) : List Piece :=
  [.text (lit "MCP_SQL.PROFILES["), .quoted name, .text (lit "]." ++ field)]

/-- `not value`, for a field of a profile. -/
def nonemptyField (name : PyObject) (field : PyStr) (value : PyObject) : Check where
  condition := .falsy value
  message := rawProfilePath name field ++ [.text (lit " must be a non-empty string")]

/-- `value in registry`, for a field of a profile. -/
def uniqueField (name : PyObject) (field : PyStr) (value : PyObject)
    (registry : List (PyObject × PyObject)) : Check where
  condition := .present value (registry.map Prod.fst)
  message := rawProfilePath name field ++ [.text (lit " "), .quoted value,
    .text (lit " is also used by profile "), .holder value registry,
    .text (lit "; " ++ field ++ lit " must be unique across profiles")]

/-- The role of a profile. -/
def identifierRole (name role : PyObject) : Check where
  condition := .unmatched isPgIdentifier role
  message := rawProfilePath name (lit "ROLE") ++ [.text (lit " "), .quoted role,
    .text (lit " must be a valid unquoted Postgres identifier (letters, " ++
      lit "digits, underscores; not starting with a digit)")]

/-- The codename of a profile. -/
def ownCodename (name codename : PyObject) : Check where
  condition := .present codename (reservedCodenames.map .str)
  message := rawProfilePath name (lit "PERMISSION_CODENAME") ++ [.text (lit " "), .quoted codename,
    .text (lit " collides with a Django default model permission on " ++
      lit "the mcpquerylog content type — provisioning would adopt the existing permission row " ++
      lit "and silently bind its current holders to this MCP tier")]

/-- The hook of a profile. -/
def importableContext (name path : PyObject) : Check where
  condition := .unimportable path
  message := rawProfilePath name (lit "SESSION_CONTEXT") ++ [.text (lit " "), .quoted path,
    .text (lit " does not import: "), .importError path]

/-- An allowed model of a profile. -/
def modelReference (name entry : PyObject) : Check where
  condition := .unmatched isModelRef entry
  message := rawProfilePath name (lit "ALLOWED_MODELS") ++ [.text (lit " entry "), .quoted entry,
    .text (lit " must match 'app_label.ModelName'")]

/-- `_CLOUD_CLIENT_NAME_RE.fullmatch(s)`. -/
def isSlug : PyStr → Bool
  | [] => false
  | c :: rest => isAsciiLower c && rest.all fun c => isAsciiLower c || isAsciiDigit c || c = 0x2d

/-- The name of a cloud client. -/
def slugName (name : PyObject) : Check where
  condition := .unmatched isSlug name
  message := [.text (lit "MCP_SQL.CLOUD_CLIENTS NAME "), .quoted name,
    .text (lit " must be a slug: a lowercase letter followed by lowercase letters, digits, or hyphens")]

/-- `name in seen`. -/
def uniqueName (name : PyObject) (seen : List PyObject) : Check where
  condition := .present name seen
  message := [.text (lit "MCP_SQL.CLOUD_CLIENTS NAME "), .quoted name,
    .text (lit " is used more than once")]

/-- `match not in _VALID_REDIRECT_MATCHES`. -/
def knownMatch (name matching : PyObject) : Check where
  condition := .absent matching [.str (lit "exact"), .str (lit "prefix")]
  message := [.text (lit "MCP_SQL.CLOUD_CLIENTS["), .quoted name, .text (lit "].REDIRECT_MATCH "),
    .quoted matching, .text (lit " must be one of ['exact', 'prefix']")]

/-- `_validate_cloud_redirect_uri`. -/
def safeRedirect (name matching uri : PyObject) : Check where
  condition := .badRedirect matching uri
  message := [.text (lit "MCP_SQL.CLOUD_CLIENTS["), .quoted name, .text (lit "].REDIRECT_URI "),
    .quoted uri, .text (lit " is invalid: must "), .problems matching uri]

/-- `"https" not in schemes`. -/
def httpsAllowed (schemes : List PyObject) : Check where
  condition := .missing (lit "https") schemes
  message := .text (lit "MCP_SQL.CLOUD_CLIENTS is non-empty (cloud clients use https callbacks), " ++
      lit "but OAUTH2_PROVIDER['ALLOWED_REDIRECT_URI_SCHEMES'] = [") ::
    (schemes.map .quoted).intersperse (.text (lit ", ")) ++
    [.text (lit "] does not include 'https'. Add 'https' to ALLOWED_REDIRECT_URI_SCHEMES.")]

/-! ## The validators -/

section Validators

variable [UnicodeDatabase] (env : StartupEnv)

/-- The two checks of `LIMITS`. -/
def validateLimits (limits : RawLimits) : Except PyExc Unit := do
  forM limits.items fun item => (positiveLimit item.1 item.2).run env
  (defaultWithinHard limits).run env

/-- `_validate_volume_alert_thresholds`. -/
def validateVolumeAlertThresholds (thresholds : List (PyObject × List (PyObject × PyObject))) :
    Except PyExc Unit :=
  forM thresholds fun (decision, windows) => do
    (knownDecision decision).run env
    forM windows fun (window, threshold) => do
      (positiveWindow decision window).run env
      (positiveThreshold decision window threshold).run env

/-- `_validate_profile_entry`. -/
def validateRawProfileEntry (name : PyObject) (entry : RawProfile) : Except PyExc Unit := do
  (identifierRole name entry.role).run env
  (ownCodename name entry.codename).run env
  (importableContext name entry.sessionContext).run env
  forM entry.allowedModels fun modelEntry => (modelReference name modelEntry).run env

/-- The registry of a field, once the profiles of `seen` are registered. -/
def fieldRegistry (field : RawProfileField) (seen : List (PyObject × RawProfile)) :
    List (PyObject × PyObject) :=
  seen.map fun (name, entry) => (field.get entry, name)

/-- One field of one profile; `seen` are the profiles before it. -/
def validateRawProfileField (seen : List (PyObject × RawProfile)) (name : PyObject)
    (entry : RawProfile) (field : RawProfileField) : Except PyExc Unit := do
  (nonemptyField name field.name (field.get entry)).run env
  (uniqueField name field.name (field.get entry) (fieldRegistry field seen)).run env

/-- The loop of `_validate_profiles` after the profiles of `seen`. -/
def validateRawProfilesFrom :
    List (PyObject × RawProfile) → List (PyObject × RawProfile) → Except PyExc Unit
  | _, [] => .ok ()
  | seen, (name, entry) :: rest => do
    forM rawProfileFields (validateRawProfileField env seen name entry)
    validateRawProfileEntry env name entry
    validateRawProfilesFrom (seen ++ [(name, entry)]) rest

/-- `_validate_profiles`. -/
def validateRawProfiles (profiles : List (PyObject × RawProfile)) : Except PyExc Unit := do
  (someProfile profiles).run env
  validateRawProfilesFrom env [] profiles

/-- The loop of `_validate_cloud_clients` after the names of `seen`. -/
def validateCloudClientsFrom : List PyObject → List RawCloudClient → Except PyExc Unit
  | _, [] => .ok ()
  | seen, entry :: rest => do
    (slugName entry.name).run env
    (uniqueName entry.name seen).run env
    (knownMatch entry.name entry.redirectMatch).run env
    (safeRedirect entry.name entry.redirectMatch entry.redirectUri).run env
    validateCloudClientsFrom (seen ++ [entry.name]) rest

/-- The redirect schemes of the provider, with its default. -/
def StartupEnv.schemes (env : StartupEnv) : List PyObject :=
  env.redirectSchemes.getD [.str (lit "http"), .str (lit "https")]

/-- `_validate_cloud_clients`. -/
def validateCloudClients (clients : List RawCloudClient) : Except PyExc Unit := do
  validateCloudClientsFrom env [] clients
  if clients ≠ [] then (httpsAllowed env.schemes).run env

/-- `validate_mcp_sql_settings`, once `TypeAdapter` has accepted the mapping. -/
def validateRaw (raw : RawSettings) : Except PyExc Unit := do
  validateLimits env raw.limits
  validateVolumeAlertThresholds env raw.volumeAlertThresholds
  (positiveSetting (lit "BAD_TOKEN_IP_THRESHOLD") raw.badTokenIpThreshold).run env
  (positiveSetting (lit "BAD_TOKEN_IP_WINDOW_SECONDS") raw.badTokenIpWindowSeconds).run env
  validateRawProfiles env raw.profiles
  validateCloudClients env raw.cloudClients

/-- `validate_mcp_sql_settings`.  `typeAdapter` stands for `validate_python`: it raises, or it accepts
the mapping, whose own values are then read. -/
def validateMcpSqlSettings {μ : Type} (typeAdapter : μ → Except PyExc RawSettings) (cfg : μ) :
    Except PyExc Unit :=
  match typeAdapter cfg with
  | .ok raw => validateRaw env raw
  | .error e =>
    if e.isException then .error (.improperlyConfigured (lit "Invalid MCP_SQL settings"))
    else .error e

end Validators

/-! ## The checks in order -/

/-- The checks of `LIMITS`. -/
def limitsChecks (limits : RawLimits) : List Check :=
  (limits.items.map fun item => positiveLimit item.1 item.2) ++ [defaultWithinHard limits]

/-- The checks of `VOLUME_ALERT_THRESHOLDS`. -/
def thresholdsChecks (thresholds : List (PyObject × List (PyObject × PyObject))) : List Check :=
  thresholds.flatMap fun (decision, windows) => knownDecision decision ::
    windows.flatMap fun (window, threshold) =>
      [positiveWindow decision window, positiveThreshold decision window threshold]

/-- The checks of a profile; `seen` are the profiles before it. -/
def profileChecks (seen : List (PyObject × RawProfile)) (name : PyObject) (entry : RawProfile) :
    List Check :=
  (rawProfileFields.flatMap fun field => [nonemptyField name field.name (field.get entry),
      uniqueField name field.name (field.get entry) (fieldRegistry field seen)]) ++
    identifierRole name entry.role :: ownCodename name entry.codename ::
      importableContext name entry.sessionContext :: entry.allowedModels.map (modelReference name)

/-- The checks of the profiles after those of `seen`. -/
def profilesChecksFrom : List (PyObject × RawProfile) → List (PyObject × RawProfile) → List Check
  | _, [] => []
  | seen, (name, entry) :: rest =>
    profileChecks seen name entry ++ profilesChecksFrom (seen ++ [(name, entry)]) rest

/-- The checks of the cloud clients after the names of `seen`. -/
def clientsChecksFrom : List PyObject → List RawCloudClient → List Check
  | _, [] => []
  | seen, entry :: rest =>
    [slugName entry.name, uniqueName entry.name seen, knownMatch entry.name entry.redirectMatch,
      safeRedirect entry.name entry.redirectMatch entry.redirectUri] ++
        clientsChecksFrom (seen ++ [entry.name]) rest

/-- Every check of the startup, in order. -/
def startupChecks (env : StartupEnv) (raw : RawSettings) : List Check :=
  limitsChecks raw.limits ++ thresholdsChecks raw.volumeAlertThresholds ++
    [positiveSetting (lit "BAD_TOKEN_IP_THRESHOLD") raw.badTokenIpThreshold,
      positiveSetting (lit "BAD_TOKEN_IP_WINDOW_SECONDS") raw.badTokenIpWindowSeconds] ++
    someProfile raw.profiles :: profilesChecksFrom [] raw.profiles ++
    clientsChecksFrom [] raw.cloudClients ++
    (if raw.cloudClients ≠ [] then [httpsAllowed env.schemes] else [])

section InOrder

variable [UnicodeDatabase] {env : StartupEnv}

theorem validateLimits_eq (limits : RawLimits) :
    validateLimits env limits = forM (limitsChecks limits) (Check.run env) := by
  unfold limitsChecks
  rw [List.forM_append, forM_map, List.forM_cons, List.forM_nil, bind_pure_unit]
  rfl

theorem validateVolumeAlertThresholds_eq
    (thresholds : List (PyObject × List (PyObject × PyObject))) :
    validateVolumeAlertThresholds env thresholds =
      forM (thresholdsChecks thresholds) (Check.run env) := by
  unfold validateVolumeAlertThresholds thresholdsChecks
  rw [forM_flatMap]
  congr 1
  funext ⟨decision, windows⟩
  rw [List.forM_cons, forM_flatMap]
  refine congrArg (Check.run env (knownDecision decision) >>= ·) ?_
  funext _
  refine congrArg (forM windows) ?_
  funext ⟨window, threshold⟩
  rw [List.forM_cons, List.forM_cons, List.forM_nil, bind_pure_unit]

theorem validateRawProfile_eq (seen : List (PyObject × RawProfile)) (name : PyObject)
    (entry : RawProfile) : (do
      forM rawProfileFields (validateRawProfileField env seen name entry)
      validateRawProfileEntry env name entry) =
        forM (profileChecks seen name entry) (Check.run env) := by
  unfold profileChecks
  rw [List.forM_append, forM_flatMap]
  have hfields : forM rawProfileFields (validateRawProfileField env seen name entry) =
      forM rawProfileFields fun field => forM [nonemptyField name field.name (field.get entry),
        uniqueField name field.name (field.get entry) (fieldRegistry field seen)] (Check.run env) := by
    congr 1
    funext field
    rw [List.forM_cons, List.forM_cons, List.forM_nil, bind_pure_unit]
    rfl
  rw [hfields, List.forM_cons, List.forM_cons, List.forM_cons, forM_map]
  rfl

theorem validateRawProfilesFrom_eq (seen profiles : List (PyObject × RawProfile)) :
    validateRawProfilesFrom env seen profiles =
      forM (profilesChecksFrom seen profiles) (Check.run env) := by
  induction profiles generalizing seen with
  | nil => rfl
  | cons first rest ih =>
    obtain ⟨name, entry⟩ := first
    rw [validateRawProfilesFrom, profilesChecksFrom, List.forM_append, ← validateRawProfile_eq, ih,
      bind_assoc]

theorem validateCloudClientsFrom_eq (seen : List PyObject) (clients : List RawCloudClient) :
    validateCloudClientsFrom env seen clients =
      forM (clientsChecksFrom seen clients) (Check.run env) := by
  induction clients generalizing seen with
  | nil => rfl
  | cons entry rest ih =>
    rw [validateCloudClientsFrom, clientsChecksFrom, ih, List.cons_append, List.forM_cons,
      List.cons_append, List.forM_cons, List.cons_append, List.forM_cons, List.cons_append,
      List.forM_cons, List.nil_append]

/-- The validators run the checks in order. -/
theorem validateRaw_eq (raw : RawSettings) :
    validateRaw env raw = forM (startupChecks env raw) (Check.run env) := by
  have hclients : validateCloudClients env raw.cloudClients =
      forM (clientsChecksFrom [] raw.cloudClients ++
        if raw.cloudClients ≠ [] then [httpsAllowed env.schemes] else []) (Check.run env) := by
    unfold validateCloudClients
    rw [List.forM_append, validateCloudClientsFrom_eq]
    by_cases hsome : raw.cloudClients ≠ []
    · rw [if_pos hsome, if_pos hsome, List.forM_cons, List.forM_nil, bind_pure_unit]
    · rw [if_neg hsome, if_neg hsome]
      rfl
  unfold validateRaw startupChecks validateRawProfiles
  rw [validateLimits_eq, validateVolumeAlertThresholds_eq, validateRawProfilesFrom_eq, hclients]
  simp only [List.append_assoc, List.cons_append, List.nil_append, List.forM_append, List.forM_cons,
    bind_assoc]

end InOrder

end McpSql
