import Mathlib.Data.List.Nodup
import McpSql.Conf
import McpSql.Foundations.Raising

/-!
# The startup check of the profiles

`_validate_profiles` (`validation.py`) on profiles whose fields have the declared types: what it
accepts has nonempty and pairwise different roles, codenames and group names, and roles that are
unquoted identifiers by the letter of `_PG_IDENTIFIER_RE`.
-/

namespace McpSql

open Python PyStr Raising

/-- An ASCII letter, digit or underscore. -/
def isWordChar (c : CodePoint) : Bool := isAsciiAlpha c || isAsciiDigit c || c = 0x5f

/-- `_PG_IDENTIFIER_RE.fullmatch(s)`. -/
def isPgIdentifier : PyStr → Bool
  | [] => false
  | c :: rest => (isAsciiAlpha c || c = 0x5f) && rest.all isWordChar

/-- `_MCP_SQL_MODEL_REF_RE.fullmatch(s)`: an app label, a dot and the name of a model. -/
def isModelRef (s : PyStr) : Bool :=
  match partition 0x2e s with
  | (c :: app, true, d :: e :: model) =>
    isAsciiLower c && app.all (fun c => isAsciiLower c || isAsciiDigit c || c = 0x5f) &&
      isAsciiUpper d && (e :: model).all isWordChar
  | _ => false

/-- `_RESERVED_CODENAMES`. -/
def reservedCodenames : List PyStr :=
  [lit "add_mcpquerylog", lit "change_mcpquerylog", lit "delete_mcpquerylog",
    lit "view_mcpquerylog"]

/-- A field that `_validate_profiles` requires and keeps unique. -/
structure ProfileField where
  name : PyStr
  get : Profile → PyStr

/-- The fields of `seen`, in order. -/
def profileFields : List ProfileField :=
  [⟨lit "ROLE", Profile.role⟩, ⟨lit "PERMISSION_CODENAME", Profile.codename⟩,
    ⟨lit "GROUP_NAME", Profile.groupName⟩]

section Checks

variable [UnicodeDatabase]

/-- `MCP_SQL.PROFILES[name].field`. -/
def profilePath (profile : Profile) (field : PyStr) : PyStr :=
  lit "MCP_SQL.PROFILES[" ++ PyStr.repr profile.name ++ lit "]." ++ field

/-- One field of one profile; `seen` are the profiles before it. -/
def validateProfileField (seen : List Profile) (profile : Profile) (field : ProfileField) :
    Except PyExc Unit :=
  if field.get profile = [] then
    .error (.improperlyConfigured (profilePath profile field.name ++
      lit " must be a non-empty string"))
  else
    match seen.find? (field.get · = field.get profile) with
    | some other => .error (.improperlyConfigured (profilePath profile field.name ++ lit " " ++
        PyStr.repr (field.get profile) ++ lit " is also used by profile " ++
        PyStr.repr other.name ++ lit "; " ++ field.name ++ lit " must be unique across profiles"))
    | none => .ok ()

/-- The import check of a hook. -/
def validateSessionContextPath (importString : PyStr → Except PyExc Unit) (profile : Profile) :
    Except PyExc Unit :=
  match profile.sessionContext with
  | some (c :: path) =>
    match importString (c :: path) with
    | .ok _ => .ok ()
    | .error e =>
      if e.isImportError then
        e.str.bind fun text => .error (.improperlyConfigured
          (profilePath profile (lit "SESSION_CONTEXT") ++ lit " " ++ PyStr.repr (c :: path) ++
            lit " does not import: " ++ text))
      else .error e
  | _ => .ok ()

/-- `_validate_profile_entry`. -/
def validateProfileEntry (importString : PyStr → Except PyExc Unit) (profile : Profile) :
    Except PyExc Unit := do
  if !isPgIdentifier profile.role then
    .error (.improperlyConfigured (profilePath profile (lit "ROLE") ++ lit " " ++
      PyStr.repr profile.role ++ lit " must be a valid unquoted Postgres identifier (letters, " ++
      lit "digits, underscores; not starting with a digit)"))
  if reservedCodenames.contains profile.codename then
    .error (.improperlyConfigured (profilePath profile (lit "PERMISSION_CODENAME") ++ lit " " ++
      PyStr.repr profile.codename ++ lit " collides with a Django default model permission on " ++
      lit "the mcpquerylog content type — provisioning would adopt the existing permission row " ++
      lit "and silently bind its current holders to this MCP tier"))
  validateSessionContextPath importString profile
  forM profile.allowedModels fun entry =>
    if isModelRef entry then .ok ()
    else .error (.improperlyConfigured (profilePath profile (lit "ALLOWED_MODELS") ++
      lit " entry " ++ PyStr.repr entry ++ lit " must match 'app_label.ModelName'"))

/-- The loop of `_validate_profiles` after the profiles of `seen`. -/
def validateProfilesFrom (importString : PyStr → Except PyExc Unit) :
    List Profile → List Profile → Except PyExc Unit
  | _, [] => .ok ()
  | seen, profile :: rest => do
    forM profileFields (validateProfileField seen profile)
    validateProfileEntry importString profile
    validateProfilesFrom importString (seen ++ [profile]) rest

/-- `_validate_profiles`. -/
def validateProfiles (importString : PyStr → Except PyExc Unit) (profiles : List Profile) :
    Except PyExc Unit :=
  if profiles = [] then
    .error (.improperlyConfigured (lit "MCP_SQL.PROFILES must declare at least one profile"))
  else validateProfilesFrom importString [] profiles

end Checks

/-! ## What is accepted -/

/-- The profiles pass the startup check. -/
structure ProfilesAccepted (profiles : List Profile) : Prop where
  identifier : ∀ p ∈ profiles, isPgIdentifier p.role = true
  nonempty : ∀ field ∈ profileFields, ∀ p ∈ profiles, field.get p ≠ []
  unique : ∀ field ∈ profileFields, (profiles.map field.get).Nodup

section Accepted

variable [UnicodeDatabase] {importString : PyStr → Except PyExc Unit}

theorem validateProfileField_eq_ok_iff {seen : List Profile} {profile : Profile}
    {field : ProfileField} : validateProfileField seen profile field = .ok () ↔
      field.get profile ≠ [] ∧ field.get profile ∉ seen.map field.get := by
  unfold validateProfileField
  by_cases hempty : field.get profile = []
  · simp [hempty]
  · rw [if_neg hempty]
    cases hfind : seen.find? (field.get · = field.get profile) with
    | none =>
      have hnone := List.find?_eq_none.mp hfind
      refine iff_of_true rfl ⟨hempty, fun hmem => ?_⟩
      obtain ⟨p, hp, hvalue⟩ := List.mem_map.mp hmem
      exact absurd hvalue (by simpa using hnone p hp)
    | some p =>
      have hvalue : field.get p = field.get profile := by simpa using List.find?_some hfind
      refine iff_of_false (by simp) fun h => h.2 ?_
      exact List.mem_map.mpr ⟨p, List.mem_of_find?_eq_some hfind, hvalue⟩

theorem identifier_of_validateProfileEntry {profile : Profile}
    (h : validateProfileEntry importString profile = .ok ()) :
    isPgIdentifier profile.role = true := by
  unfold validateProfileEntry at h
  by_contra hnot
  have hfalse : isPgIdentifier profile.role = false := by simpa using hnot
  simp [hfalse, bind, Except.bind] at h

/-- What the loop accepts after profiles that were accepted. -/
theorem accepted_of_validateProfilesFrom {seen profiles : List Profile}
    (hseen : ProfilesAccepted seen)
    (h : validateProfilesFrom importString seen profiles = .ok ()) :
    ProfilesAccepted (seen ++ profiles) := by
  induction profiles generalizing seen with
  | nil =>
    rw [List.append_nil]
    exact hseen
  | cons profile rest ih =>
    rw [validateProfilesFrom] at h
    obtain ⟨_, hfields, h⟩ := bind_eq_ok.mp h
    obtain ⟨_, hentry, hrest⟩ := bind_eq_ok.mp h
    have hfields' := forM_eq_ok.mp hfields
    have hextended : ProfilesAccepted (seen ++ [profile]) := by
      constructor
      · intro p hp
        rcases List.mem_append.mp hp with hp | hp
        · exact hseen.identifier p hp
        · obtain rfl := List.mem_singleton.mp hp
          exact identifier_of_validateProfileEntry hentry
      · intro field hfield p hp
        rcases List.mem_append.mp hp with hp | hp
        · exact hseen.nonempty field hfield p hp
        · obtain rfl := List.mem_singleton.mp hp
          exact (validateProfileField_eq_ok_iff.mp (hfields' field hfield)).1
      · intro field hfield
        have hfresh := (validateProfileField_eq_ok_iff.mp (hfields' field hfield)).2
        rw [List.map_append, List.map_singleton, List.nodup_append]
        refine ⟨hseen.unique field hfield, List.nodup_singleton _, ?_⟩
        intro value hvalue other hother heq
        obtain rfl := List.mem_singleton.mp hother
        exact hfresh (heq ▸ hvalue)
    have hall := ih hextended hrest
    rwa [List.append_assoc] at hall

/-- What `_validate_profiles` accepts. -/
theorem accepted_of_validateProfiles {profiles : List Profile}
    (h : validateProfiles importString profiles = .ok ()) : ProfilesAccepted profiles := by
  unfold validateProfiles at h
  by_cases hempty : profiles = []
  · simp [hempty] at h
  · rw [if_neg hempty] at h
    have hnone : ProfilesAccepted [] := ⟨by simp, by simp, by simp⟩
    exact accepted_of_validateProfilesFrom hnone h

end Accepted

section Unique

variable {profiles : List Profile} (h : ProfilesAccepted profiles)

include h

theorem ProfilesAccepted.roles : (profiles.map Profile.role).Nodup :=
  h.unique ⟨lit "ROLE", Profile.role⟩ (by simp [profileFields])

theorem ProfilesAccepted.codenames : (profiles.map Profile.codename).Nodup :=
  h.unique ⟨lit "PERMISSION_CODENAME", Profile.codename⟩ (by simp [profileFields])

theorem ProfilesAccepted.groups : (profiles.map Profile.groupName).Nodup :=
  h.unique ⟨lit "GROUP_NAME", Profile.groupName⟩ (by simp [profileFields])

end Unique

/-! ## An example -/

/-- Every import succeeds. -/
def importsAll : PyStr → Except PyExc Unit := fun _ => .ok ()

end McpSql
