import McpSql.Conf
import McpSql.Foundations.Journal
import McpSql.Foundations.Memo
import McpSql.Foundations.Raising

/-!
# The settings accessor

`MCPSQLSettings` (`conf.py`) reads `settings.MCP_SQL` with the in-package defaults and keeps what it
has read until the settings change.  Between changes that are signalled it answers as if it kept
nothing.
-/

namespace McpSql

open Python PyStr Effect Memo GuardedRun

/-! ## Settings -/

/-- A value of `MCP_SQL`, or the object a dotted path in it names. -/
inductive SettingValue where
  | text (value : Option PyStr)
  | profiles (entries : List Profile)
  | cloudClients (entries : List CloudClientEntry)
  /-- What `import_string` returned; objects are numbered. -/
  | imported (object : ℕ)
  deriving DecidableEq, Repr

/-- A mapping with the keys of `DEFAULTS`, each with its own type of value. -/
structure McpSqlDict where
  texts : PyStr → Option (Option PyStr)
  profiles : Option (List Profile)
  cloudClients : Option (List CloudClientEntry)

/-- `.get(name)`. -/
def McpSqlDict.get (d : McpSqlDict) (name : PyStr) : Option SettingValue :=
  if name = lit "PROFILES" then d.profiles.map .profiles
  else if name = lit "CLOUD_CLIENTS" then d.cloudClients.map .cloudClients
  else (d.texts name).map .text

/-- The entries of `DEFAULTS` other than `PROFILES` and `CLOUD_CLIENTS`. -/
def defaultTexts : List (PyStr × Option PyStr) :=
  [(lit "RESOURCE_NAME", some (lit "MCP SQL")),
    (lit "MFA_CHECKER", some (lit "mcp_sql.conf.deny_unconfigured_mfa")),
    (lit "SESSION_MODEL", none),
    (lit "APPLICATION_NAME", some (lit "mcp-sql")),
    (lit "APPLICATION_NAME_PREFIX", some (lit "mcp-sql-")),
    (lit "SCOPE", some (lit "mcp:sql")),
    (lit "DB_ALIAS", some (lit "mcp_readonly"))]

/-- `DEFAULTS["PROFILES"]`. -/
def defaultProfiles : List Profile :=
  [⟨lit "default", lit "mcp_readonly_role", lit "use_mcp_session", lit "mcp_sql_users", [], none⟩]

/-- `DEFAULTS`. -/
def mcpSqlDefaults : McpSqlDict where
  texts name := (defaultTexts.find? (·.1 = name)).map Prod.snd
  profiles := some defaultProfiles
  cloudClients := some []

/-- `IMPORT_STRINGS`. -/
def importStrings : List PyStr := [lit "MFA_CHECKER"]

/-- `import_string`, by the number of the object a path names. -/
abbrev Importer := Option PyStr → Except PyExc ℕ

/-- How a value is written in an f-string. -/
def SettingValue.format : SettingValue → PyStr
  | text (some value) => value
  -- `None`; the other kinds of value are not formatted
  | text none | profiles _ | cloudClients _ | imported _ => lit "None"

/-! ## Reading without keeping -/

section Reading

variable [UnicodeDatabase] (importString : Importer)

/-- What `__getattr__` raises for another name. -/
def unknownSetting (name : PyStr) : PyExc :=
  .otherException (lit "AttributeError") (some (lit "Unknown MCP_SQL setting: " ++ PyStr.repr name))

omit [UnicodeDatabase] in
/-- `import_string(raw) if name in IMPORT_STRINGS else raw`. -/
def resolvedSetting (name : PyStr) : SettingValue → Except PyExc SettingValue
  | .text value =>
    if name ∈ importStrings then .imported <$> importString value else .ok (.text value)
  | value => .ok value

/-- What a setting is read as. -/
def readSetting (config : McpSqlDict) (name : PyStr) : Except PyExc SettingValue :=
  match mcpSqlDefaults.get name with
  | none => .error (unknownSetting name)
  | some default => resolvedSetting importString name ((config.get name).getD default)

/-- A profile with its hook resolved. -/
def builtProfile (entry : Profile) : Except PyExc Profile :=
  match entry.sessionContext with
  | some (c :: rest) => do
    let _ ← importString (some (c :: rest))
    return entry
  | _ => .ok { entry with sessionContext := none }

/-- The profiles, built from the settings. -/
def readProfiles (config : McpSqlDict) : Except PyExc (List Profile) :=
  (config.profiles.getD defaultProfiles).mapM (builtProfile importString)

/-- Store a value under a key of a mapping. -/
def storeAt {ν : Type} (key : PyStr) (value : ν) : List (PyStr × ν) → List (PyStr × ν)
  | [] => [(key, value)]
  | (k, x) :: rest => if k = key then (k, value) :: rest else (k, x) :: storeAt key value rest

/-- The cloud clients, by the prefix and the entries of the settings. -/
def builtCloudClients (stem : SettingValue) (entries : List CloudClientEntry) :
    List (PyStr × CloudClient) :=
  entries.foldl (fun built entry =>
    let clientId := stem.format ++ lit "cloud." ++ entry.name
    storeAt clientId ⟨entry.name, clientId, entry.redirectMatch, entry.redirectUri⟩ built) []

/-- The cloud clients, with the prefix of one configuration and the entries of another. -/
def readCloudClients (config config' : McpSqlDict) : Except PyExc (List (PyStr × CloudClient)) := do
  let stem ← readSetting importString config (lit "APPLICATION_NAME_PREFIX")
  return builtCloudClients stem (config'.cloudClients.getD [])

/-! ## The accessor -/

/-- `settings.MCP_SQL`, and what the accessor keeps. -/
structure SettingsState where
  config : McpSqlDict
  cached : PyStr → Option SettingValue := fun _ => none
  builtProfiles : Option (List Profile) := none
  builtClients : Option (List (PyStr × CloudClient)) := none

/-- The slot of a setting in `_cached`. -/
def cachedSlot (name : PyStr) : Slot SettingsState SettingValue where
  get s := s.cached name
  set s value := { s with cached := Function.update s.cached name (some value) }

/-- `_profiles`. -/
def profilesSlot : Slot SettingsState (List Profile) where
  get s := s.builtProfiles
  set s value := { s with builtProfiles := some value }

/-- `_cloud_clients`. -/
def cloudClientsSlot : Slot SettingsState (List (PyStr × CloudClient)) where
  get s := s.builtClients
  set s value := { s with builtClients := some value }

/-- A computation on the accessor. -/
abbrev Accessor := EStateM PyExc SettingsState

/-- `MCPSQLSettings.__getattr__`. -/
def getattr (name : PyStr) : Accessor SettingValue :=
  match mcpSqlDefaults.get name with
  | none => raise (unknownSetting name)
  | some default => memo (cachedSlot name) do
    let s ← get
    call (resolvedSetting importString name ((s.config.get name).getD default))

/-- `MCPSQLSettings.profiles`. -/
def accessProfiles : Accessor (List Profile) := memo profilesSlot do
  let s ← get
  call (readProfiles importString s.config)

/-- `MCPSQLSettings.cloud_clients`. -/
def accessCloudClients : Accessor (List (PyStr × CloudClient)) := memo cloudClientsSlot do
  let stem ← getattr importString (lit "APPLICATION_NAME_PREFIX")
  let s ← get
  call (.ok (builtCloudClients stem (s.config.cloudClients.getD [])))

omit [UnicodeDatabase] in
/-- `MCPSQLSettings.reload`. -/
def SettingsState.reload (s : SettingsState) : SettingsState := { config := s.config }

omit [UnicodeDatabase] in
/-- `_reload_on_setting_changed`. -/
def SettingsState.settingChanged (s : SettingsState) (setting : PyStr) : SettingsState :=
  if setting = lit "MCP_SQL" then s.reload else s

/-! ## Coherence -/

/-- What the accessor keeps was read in configurations that are or were in force. -/
structure Coherent (inForce : List McpSqlDict) (s : SettingsState) : Prop where
  current : inForce.getLast? = some s.config
  cached : ∀ name value, s.cached name = some value →
    ∃ c ∈ inForce, readSetting importString c name = .ok value
  profiles : ∀ built, s.builtProfiles = some built →
    ∃ c ∈ inForce, readProfiles importString c = .ok built
  clients : ∀ built, s.builtClients = some built →
    ∃ c ∈ inForce, ∃ c' ∈ inForce, readCloudClients importString c c' = .ok built

/-- An accessor that keeps nothing. -/
theorem coherent_empty {inForce : List McpSqlDict} {config : McpSqlDict}
    (h : inForce.getLast? = some config) : Coherent importString inForce { config := config } :=
  ⟨h, by simp, by simp, by simp⟩

section Accesses

variable {importString} {inForce : List McpSqlDict}

theorem Coherent.config_mem {s : SettingsState} (h : Coherent importString inForce s) :
    s.config ∈ inForce := List.mem_of_getLast? h.current

/-- A setting is read as in a configuration in force. -/
theorem ensures_getattr (name : PyStr) :
    Ensures (Coherent importString inForce)
      (fun answer => ∃ c ∈ inForce, answer = readSetting importString c name)
      (getattr importString name) := by
  unfold getattr
  cases hdefault : mcpSqlDefaults.get name with
  | none =>
    intro s hs
    refine ⟨hs, s.config, hs.config_mem, ?_⟩
    simp [readSetting, hdefault]
  | some default =>
    refine .memo ?_ ?_ (.read fun s hs => ⟨s.config, hs.config_mem, ?_⟩)
    · intro s value hs hget
      obtain ⟨c, hc, hread⟩ := hs.cached name value hget
      exact ⟨c, hc, hread.symm⟩
    · rintro s value hs ⟨c, hc, hread⟩
      refine { hs with cached := fun other kept hkept => ?_ }
      by_cases hname : other = name
      · subst hname
        obtain rfl : value = kept := by simpa [cachedSlot] using hkept
        exact ⟨c, hc, hread.symm⟩
      · refine hs.cached other kept ?_
        simpa [cachedSlot, Function.update_of_ne hname] using hkept
    · simp [readSetting, hdefault]

theorem ensures_accessProfiles :
    Ensures (Coherent importString inForce)
      (fun answer => ∃ c ∈ inForce, answer = readProfiles importString c)
      (accessProfiles importString) := by
  refine .memo ?_ ?_ (.read fun s hs => ⟨s.config, hs.config_mem, rfl⟩)
  · intro s built hs hget
    obtain ⟨c, hc, hread⟩ := hs.profiles built hget
    exact ⟨c, hc, hread.symm⟩
  · rintro s built hs ⟨c, hc, hread⟩
    refine { hs with profiles := fun kept hkept => ?_ }
    obtain rfl : built = kept := by simpa [profilesSlot] using hkept
    exact ⟨c, hc, hread.symm⟩

theorem ensures_accessCloudClients :
    Ensures (Coherent importString inForce)
      (fun answer => ∃ c ∈ inForce, ∃ c' ∈ inForce, answer = readCloudClients importString c c')
      (accessCloudClients importString) := by
  refine .memo ?_ ?_ (.bind (ensures_getattr (lit "APPLICATION_NAME_PREFIX")) ?_ ?_)
  · intro s built hs hget
    obtain ⟨c, hc, c', hc', hread⟩ := hs.clients built hget
    exact ⟨c, hc, c', hc', hread.symm⟩
  · rintro s built hs ⟨c, hc, c', hc', hread⟩
    refine { hs with clients := fun kept hkept => ?_ }
    obtain rfl : built = kept := by simpa [cloudClientsSlot] using hkept
    exact ⟨c, hc, c', hc', hread.symm⟩
  · rintro stem ⟨c, hc, hstem⟩
    refine .read fun s hs => ⟨c, hc, s.config, hs.config_mem, ?_⟩
    rw [readCloudClients, ← hstem]
    rfl
  · rintro e ⟨c, hc, herror⟩
    refine ⟨c, hc, c, hc, ?_⟩
    rw [readCloudClients, ← herror]
    rfl

end Accesses

/-! ## Histories -/

/-- An access, a change of `settings.MCP_SQL`, or the signal that a setting has changed. -/
inductive SettingsOp where
  | read (name : PyStr)
  | profiles
  | cloudClients
  | assign (config : McpSqlDict)
  | settingChanged (setting : PyStr)

/-- What an access returns or raises. -/
inductive SettingsAnswer where
  | setting (answer : Except PyExc SettingValue)
  | profiles (answer : Except PyExc (List Profile))
  | cloudClients (answer : Except PyExc (List (PyStr × CloudClient)))
  | silent

/-- The answer of an operation. -/
def SettingsOp.answer (s : SettingsState) : SettingsOp → SettingsAnswer
  | read name => .setting (outcome ((getattr importString name).run s))
  | profiles => .profiles (outcome ((accessProfiles importString).run s))
  | cloudClients => .cloudClients (outcome ((accessCloudClients importString).run s))
  | assign _ | settingChanged _ => .silent

/-- The state an operation leaves behind. -/
def SettingsOp.next (s : SettingsState) : SettingsOp → SettingsState
  | read name => finalState ((getattr importString name).run s)
  | profiles => finalState ((accessProfiles importString).run s)
  | cloudClients => finalState ((accessCloudClients importString).run s)
  | assign config => { s with config := config }
  | settingChanged setting => s.settingChanged setting

/-- The state after a history, from a fresh accessor. -/
def settingsAfter (config : McpSqlDict) (history : List SettingsOp) : SettingsState :=
  history.foldl (SettingsOp.next importString) { config := config }

omit [UnicodeDatabase] in
/-- The configurations in force since the change of `MCP_SQL` that was signalled last. -/
def SettingsOp.inForce (since : List McpSqlDict) : SettingsOp → List McpSqlDict
  | assign config => since ++ [config]
  | settingChanged setting => if setting = lit "MCP_SQL" then since.getLast?.toList else since
  | read _ | profiles | cloudClients => since

/-- The answer an access gives in configurations, without keeping anything. -/
inductive AnsweredIn (inForce : List McpSqlDict) : SettingsOp → SettingsAnswer → Prop
  | read {name : PyStr} {c : McpSqlDict} (hc : c ∈ inForce) :
      AnsweredIn inForce (.read name) (.setting (readSetting importString c name))
  | profiles {c : McpSqlDict} (hc : c ∈ inForce) :
      AnsweredIn inForce .profiles (.profiles (readProfiles importString c))
  | cloudClients {c c' : McpSqlDict} (hc : c ∈ inForce) (hc' : c' ∈ inForce) :
      AnsweredIn inForce .cloudClients (.cloudClients (readCloudClients importString c c'))
  | assign {config : McpSqlDict} : AnsweredIn inForce (.assign config) .silent
  | settingChanged {setting : PyStr} : AnsweredIn inForce (.settingChanged setting) .silent

section Histories

variable {importString}

/-- An operation answers from the configurations in force. -/
theorem answeredIn_of_coherent {inForce : List McpSqlDict} {s : SettingsState}
    (h : Coherent importString inForce s) (op : SettingsOp) :
    AnsweredIn importString inForce op (op.answer importString s) := by
  cases op with
  | read name =>
    obtain ⟨c, hc, hanswer⟩ := (ensures_getattr name s h).2
    rw [SettingsOp.answer, hanswer]
    exact .read hc
  | profiles =>
    obtain ⟨c, hc, hanswer⟩ := (ensures_accessProfiles s h).2
    rw [SettingsOp.answer, hanswer]
    exact .profiles hc
  | cloudClients =>
    obtain ⟨c, hc, c', hc', hanswer⟩ := (ensures_accessCloudClients s h).2
    rw [SettingsOp.answer, hanswer]
    exact .cloudClients hc hc'
  | assign config => exact .assign
  | settingChanged setting => exact .settingChanged

/-- More configurations in force, the last of them another one. -/
theorem Coherent.assign {inForce : List McpSqlDict} {s : SettingsState}
    (h : Coherent importString inForce s) (config : McpSqlDict) :
    Coherent importString (inForce ++ [config]) { s with config := config } := by
  have hmore : ∀ c ∈ inForce, c ∈ inForce ++ [config] := fun c hc => List.mem_append_left _ hc
  refine ⟨List.getLast?_concat .., fun name value hkept => ?_, fun built hkept => ?_,
    fun built hkept => ?_⟩
  · obtain ⟨c, hc, hread⟩ := h.cached name value hkept
    exact ⟨c, hmore c hc, hread⟩
  · obtain ⟨c, hc, hread⟩ := h.profiles built hkept
    exact ⟨c, hmore c hc, hread⟩
  · obtain ⟨c, hc, c', hc', hread⟩ := h.clients built hkept
    exact ⟨c, hmore c hc, c', hmore c' hc', hread⟩

/-- Every operation keeps the accessor coherent. -/
theorem Coherent.next {inForce : List McpSqlDict} {s : SettingsState}
    (h : Coherent importString inForce s) (op : SettingsOp) :
    Coherent importString (op.inForce inForce) (op.next importString s) := by
  cases op with
  | read name => exact (ensures_getattr name s h).1
  | profiles => exact (ensures_accessProfiles s h).1
  | cloudClients => exact (ensures_accessCloudClients s h).1
  | assign config => exact h.assign config
  | settingChanged setting =>
    unfold SettingsOp.inForce SettingsOp.next SettingsState.settingChanged
    by_cases hsetting : setting = lit "MCP_SQL"
    · simp only [hsetting, if_true]
      refine coherent_empty importString ?_
      rw [h.current]
      rfl
    · simp only [hsetting, if_false]
      exact h

theorem coherent_after (config : McpSqlDict) (history : List SettingsOp) :
    Coherent importString (history.foldl SettingsOp.inForce [config])
      (settingsAfter importString config history) := by
  have hrun : ∀ (history : List SettingsOp) (inForce : List McpSqlDict) (s : SettingsState),
      Coherent importString inForce s →
        Coherent importString (history.foldl SettingsOp.inForce inForce)
          (history.foldl (SettingsOp.next importString) s) := by
    intro history
    induction history with
    | nil => exact fun _ _ h => h
    | cons op rest ih => exact fun inForce s h => ih _ _ (h.next op)
  exact hrun history [config] _ (coherent_empty importString rfl)

end Histories

omit [UnicodeDatabase] in
/-- A history in which every change of `settings.MCP_SQL` is signalled at once. -/
inductive Signalled : List SettingsOp → Prop
  | nil : Signalled []
  | other {op : SettingsOp} {rest : List SettingsOp} (hop : ∀ config, op ≠ .assign config)
      (hrest : Signalled rest) : Signalled (op :: rest)
  | override {config : McpSqlDict} {rest : List SettingsOp} (hrest : Signalled rest) :
      Signalled (.assign config :: .settingChanged (lit "MCP_SQL") :: rest)

omit [UnicodeDatabase] in
/-- After such a history one configuration is in force. -/
theorem Signalled.inForce {history : List SettingsOp} (h : Signalled history)
    (config : McpSqlDict) : ∃ c, history.foldl SettingsOp.inForce [config] = [c] := by
  induction h generalizing config with
  | nil => exact ⟨config, rfl⟩
  | @other op rest hop hrest ih =>
    have hsame : op.inForce [config] = [config] := by
      cases op with
      | assign c => exact absurd rfl (hop c)
      | settingChanged setting => by_cases hs : setting = lit "MCP_SQL" <;> simp [SettingsOp.inForce]
      | _ => rfl
    rw [List.foldl_cons, hsame]
    exact ih config
  | @override c rest hrest ih => exact ih c

end Reading

/-- A mapping that sets `DB_ALIAS` only. -/
def aliasDict (name : PyStr) : McpSqlDict where
  texts key := if key = lit "DB_ALIAS" then some (some name) else none
  profiles := none
  cloudClients := none

end McpSql
