import McpSql.Models

/-!
# Settings

The values of `settings.MCP_SQL` the modelled functions read (`conf.py`), with the in-package
defaults, and the two readers that compute with them.
-/

namespace McpSql

open Python PyStr

/-- `conf.Profile`; the hook is named by its dotted path. -/
structure Profile where
  name : PyStr
  role : PyStr
  codename : PyStr
  groupName : PyStr
  allowedModels : List PyStr
  sessionContext : Option PyStr := none
  deriving DecidableEq, Repr

/-- An entry of `MCP_SQL["CLOUD_CLIENTS"]`. -/
structure CloudClientEntry where
  name : PyStr
  redirectMatch : PyStr
  redirectUri : PyStr
  deriving DecidableEq, Repr

/-- `conf.CloudClient`. -/
structure CloudClient where
  name : PyStr
  clientId : PyStr
  redirectMatch : PyStr
  redirectUri : PyStr
  deriving DecidableEq, Repr

/-- `MCP_SQL["LIMITS"]`. -/
structure Limits where
  defaultLimit : ℤ
  hardLimit : ℤ
  bytesLimit : ℤ
  deriving DecidableEq, Repr

/-- The windows of a decision in `VOLUME_ALERT_THRESHOLDS`: distinct positive numbers of seconds,
each with its threshold. -/
structure VolumeWindows where
  entries : List (ℕ × ℕ)
  nodup : (entries.map Prod.fst).Nodup
  pos : ∀ entry ∈ entries, 0 < entry.1

/-- The settings, with the defaults of `DEFAULTS`. -/
structure Settings where
  applicationName : PyStr := lit "mcp-sql"
  applicationNamePrefix : PyStr := lit "mcp-sql-"
  scope : PyStr := lit "mcp:sql"
  sessionModel : Option PyStr := none
  dbAlias : PyStr := lit "mcp_readonly"
  profiles : List Profile
  cloudClientEntries : List CloudClientEntry := []
  limits : Limits
  banSelectStar : Bool
  badTokenIpThreshold : ℕ
  badTokenIpWindowSeconds : ℕ
  volumeAlertThresholds : Decision → VolumeWindows

/-! ## Recognised applications -/

/-- A character of the URL-safe base64 alphabet. -/
def isUrlsafe (c : CodePoint) : Bool :=
  isAsciiAlpha c || isAsciiDigit c || c = 0x5f || c = 0x2d

/-- `cloud_clients`: each entry under its derived `client_id`. -/
def cloudClients (settings : Settings) : List CloudClient :=
  settings.cloudClientEntries.map fun entry =>
    ⟨entry.name, settings.applicationNamePrefix ++ lit "cloud." ++ entry.name, entry.redirectMatch,
      entry.redirectUri⟩

/-- `consts.is_mcp_application_name`. -/
def isMcpApplicationName (settings : Settings) (name : PyStr) : Bool :=
  if name = settings.applicationName then true
  else if (cloudClients settings).any (·.clientId = name) then true
  else
    startsWith settings.applicationNamePrefix name &&
      (let suffix := name.drop settings.applicationNamePrefix.length
       suffix.length = 22 && suffix.all isUrlsafe)

/-! ## Profiles -/

/-- `auth.Permission`, with its content type. -/
structure Permission where
  codename : PyStr
  appLabel : PyStr
  model : PyStr
  deriving DecidableEq, Repr

/-- `ResolutionOutcome`, or the bound profile. -/
inductive Resolution where
  | noPerm
  | ambiguousProfile
  | bound (profile : Profile)
  deriving DecidableEq, Repr

/-- The codenames `resolve_profile` finds among the permissions a user holds. -/
def matchedCodenames (settings : Settings) (held : List Permission) : List PyStr :=
  ((held.filter fun p => p.appLabel = lit "mcp_sql" && p.model = lit "mcpquerylog" &&
    settings.profiles.any (·.codename = p.codename)).map Permission.codename).dedup

/-- `resolve_profile`, on the permissions the user holds directly or through a group. -/
def resolveProfile (settings : Settings) (held : List Permission) : Resolution :=
  match matchedCodenames settings held with
  | [] => .noPerm
  | [codename] =>
    match settings.profiles.reverse.find? (·.codename = codename) with
    | some profile => .bound profile
    | none => .noPerm
  | _ => .ambiguousProfile

/-! ## An example -/

/-- One profile over `notes.Note`, with the default limits of the documentation. -/
def exampleSettings : Settings where
  profiles := [⟨lit "default", lit "mcp_readonly_role", lit "use_mcp_session",
    lit "mcp_sql_users", [lit "notes.Note"], none⟩]
  limits := ⟨10, 100, 65536⟩
  banSelectStar := true
  badTokenIpThreshold := 100
  badTokenIpWindowSeconds := 3600
  volumeAlertThresholds _ := ⟨[(3600, 100)], by decide, by decide⟩

end McpSql
