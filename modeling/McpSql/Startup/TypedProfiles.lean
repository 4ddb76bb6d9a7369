import McpSql.Startup.Validate

/-!
# The startup check on typed profiles

On profiles whose fields have the declared types `_validate_profiles` does what `validateProfiles`
does: it finds the same conflicts and raises the same errors, text for text.
-/

namespace McpSql

open Python PyStr Raising

/-- A profile whose fields have the declared types, as the mapping holds it. -/
def Profile.raw (p : Profile) : PyObject × RawProfile :=
  (.str p.name, { role := .str p.role, codename := .str p.codename, groupName := .str p.groupName,
                  sessionContext := (p.sessionContext.map .str).getD .none,
                  allowedModels := p.allowedModels.map .str })

section Typed

variable [UnicodeDatabase] {env : StartupEnv}

theorem nonemptyField_run (profile : Profile) (field : ProfileField) :
    (nonemptyField (.str profile.name) field.name (.str (field.get profile))).run env =
      if field.get profile = [] then .error (.improperlyConfigured
        (profilePath profile field.name ++ lit " must be a non-empty string")) else .ok () := by
  have heval : (nonemptyField (.str profile.name) field.name (.str (field.get profile))).condition.eval
      env = .ok (decide (field.get profile = [])) := by
    cases field.get profile with
    | nil => rfl
    | cons c rest => rfl
  rw [Check.run_eq heval]
  simp [nonemptyField, rawProfilePath, printMessage, profilePath]

/-- The registry of a field, as the mapping holds it. -/
def registryOf (field : ProfileField) (seen : List Profile) : List (PyObject × PyObject) :=
  seen.map fun p => (.str (field.get p), .str p.name)

omit [UnicodeDatabase] in
theorem positionOf_registryOf (o : ObjectModel) (field : ProfileField) (seen : List Profile)
    (value : PyStr) : positionOf o (.str value) ((registryOf field seen).map Prod.fst) =
      .ok (seen.findIdx? (field.get · = value)) := by
  have hkeys : (registryOf field seen).map Prod.fst = (seen.map field.get).map .str := by
    simp [registryOf]
  rw [hkeys, positionOf_str, List.findIdx?_map]
  rfl

theorem print_holder (field : ProfileField) (seen : List Profile) (value : PyStr) :
    (Piece.holder (.str value) (registryOf field seen)).print env =
      match seen.find? (field.get · = value) with
      | some other => .ok (PyStr.repr other.name)
      | none => .error (.lookupError (lit "KeyError")) := by
  show (positionOf env.objects _ ((registryOf field seen).map Prod.fst) >>= _) = _
  rw [positionOf_registryOf, ok_bind, List.find?_eq_bind_findIdx?_getElem?]
  cases seen.findIdx? (field.get · = value) with
  | none => rfl
  | some i =>
    have hentry : (registryOf field seen)[i]? =
        seen[i]?.map fun p => (.str (field.get p), .str p.name) := List.getElem?_map
    simp only [Option.bind_some, hentry]
    cases seen[i]? with
    | none => rfl
    | some other => rfl

theorem uniqueField_run (seen : List Profile) (profile : Profile) (field : ProfileField) :
    (uniqueField (.str profile.name) field.name (.str (field.get profile))
      (registryOf field seen)).run env =
      match seen.find? (field.get · = field.get profile) with
      | some other => .error (.improperlyConfigured (profilePath profile field.name ++ lit " " ++
          PyStr.repr (field.get profile) ++ lit " is also used by profile " ++
          PyStr.repr other.name ++ lit "; " ++ field.name ++ lit " must be unique across profiles"))
      | none => .ok () := by
  have heval : (uniqueField (.str profile.name) field.name (.str (field.get profile))
      (registryOf field seen)).condition.eval env =
        .ok (seen.findIdx? (field.get · = field.get profile)).isSome := by
    show Option.isSome <$> positionOf env.objects _ ((registryOf field seen).map Prod.fst) = _
    rw [positionOf_registryOf]
    rfl
  rw [Check.run_eq heval]
  cases hfind : seen.find? (field.get · = field.get profile) with
  | none =>
    have hnone : seen.findIdx? (field.get · = field.get profile) = none := by
      rw [List.findIdx?_eq_none_iff]
      intro p hp
      simpa using List.find?_eq_none.mp hfind p hp
    rw [hnone]
    rfl
  | some other =>
    have hsome : (seen.findIdx? (field.get · = field.get profile)).isSome = true := by
      rw [List.findIdx?_isSome, List.any_eq_true]
      exact ⟨other, List.mem_of_find?_eq_some hfind, by simpa using List.find?_some hfind⟩
    rw [if_pos hsome]
    simp [uniqueField, rawProfilePath, printMessage, print_holder, hfind, profilePath]

theorem validateRawProfileField_eq (seen : List Profile) (profile : Profile) (field : ProfileField)
    (raw : RawProfileField) (hname : raw.name = field.name)
    (hget : ∀ p : Profile, raw.get p.raw.2 = .str (field.get p)) :
    validateRawProfileField env (seen.map Profile.raw) (.str profile.name) profile.raw.2 raw =
      validateProfileField seen profile field := by
  have hregistry : fieldRegistry raw (seen.map Profile.raw) = registryOf field seen := by
    unfold fieldRegistry registryOf
    rw [List.map_map]
    exact List.map_congr_left fun p _ => congrArg (fun v => (v, PyObject.str p.name)) (hget p)
  unfold validateRawProfileField validateProfileField
  rw [hname, hget, hregistry, nonemptyField_run, uniqueField_run]
  by_cases hempty : field.get profile = []
  · rw [if_pos hempty, if_pos hempty]
    rfl
  · rw [if_neg hempty, if_neg hempty]
    rfl

theorem identifierRole_run (profile : Profile) :
    (identifierRole (.str profile.name) (.str profile.role)).run env =
      if !isPgIdentifier profile.role then .error (.improperlyConfigured
        (profilePath profile (lit "ROLE") ++ lit " " ++ PyStr.repr profile.role ++
          lit " must be a valid unquoted Postgres identifier (letters, " ++
          lit "digits, underscores; not starting with a digit)")) else .ok () := by
  have heval : (identifierRole (.str profile.name) (.str profile.role)).condition.eval env =
      .ok !isPgIdentifier profile.role := rfl
  rw [Check.run_eq heval]
  simp [identifierRole, rawProfilePath, printMessage, profilePath]

theorem ownCodename_run (profile : Profile) :
    (ownCodename (.str profile.name) (.str profile.codename)).run env =
      if reservedCodenames.contains profile.codename then .error (.improperlyConfigured
        (profilePath profile (lit "PERMISSION_CODENAME") ++ lit " " ++
          PyStr.repr profile.codename ++
          lit " collides with a Django default model permission on " ++
          lit "the mcpquerylog content type — provisioning would adopt the existing permission row " ++
          lit "and silently bind its current holders to this MCP tier")) else .ok () := by
  have heval : (ownCodename (.str profile.name) (.str profile.codename)).condition.eval env =
      .ok (reservedCodenames.contains profile.codename) := by
    show Option.isSome <$> positionOf env.objects _ (reservedCodenames.map .str) = _
    have hsame : (reservedCodenames.findIdx? (· = profile.codename)).isSome =
        reservedCodenames.contains profile.codename := by
      rw [List.findIdx?_isSome, List.any_eq, List.contains_eq_mem]
      simp
    rw [positionOf_str, ← hsame]
    rfl
  rw [Check.run_eq heval]
  simp [ownCodename, rawProfilePath, printMessage, profilePath]

theorem importableContext_run (profile : Profile) :
    (importableContext (.str profile.name) profile.raw.2.sessionContext).run env =
      validateSessionContextPath (fun path => env.importString (.str path)) profile := by
  unfold validateSessionContextPath
  cases hcontext : profile.sessionContext with
  | none =>
    have hraw : profile.raw.2.sessionContext = .none := by simp [Profile.raw, hcontext]
    rw [hraw]
    rfl
  | some path =>
    have hraw : profile.raw.2.sessionContext = .str path := by simp [Profile.raw, hcontext]
    rw [hraw]
    cases path with
    | nil => rfl
    | cons c path =>
      have heval : (importableContext (.str profile.name) (.str (c :: path))).condition.eval env =
          importFails env (.str (c :: path)) := rfl
      unfold Check.run
      rw [heval]
      unfold importFails
      cases himport : env.importString (.str (c :: path)) with
      | ok u => simp [himport]
      | error e =>
        have hprint : (Piece.importError (.str (c :: path))).print env = e.str := by
          simp [Piece.print, himport]
        by_cases hclass : e.isImportError = true
        · obtain ⟨text, rfl⟩ := PyExc.eq_importError hclass
          have htext : (PyExc.importError text).str = .ok text := rfl
          simp [himport, hclass, importableContext, rawProfilePath, printMessage, hprint, htext,
            profilePath, Except.bind]
        · simp [himport, hclass, error_bind]

theorem forM_modelReference (profile : Profile) :
    (forM profile.raw.2.allowedModels fun entry =>
      (modelReference (.str profile.name) entry).run env) =
      forM profile.allowedModels fun entry =>
        if isModelRef entry then .ok ()
        else .error (.improperlyConfigured (profilePath profile (lit "ALLOWED_MODELS") ++
          lit " entry " ++ PyStr.repr entry ++ lit " must match 'app_label.ModelName'")) := by
  show forM (profile.allowedModels.map PyObject.str) _ = _
  rw [forM_map]
  congr 1
  funext entry
  have heval : (modelReference (.str profile.name) (.str entry)).condition.eval env =
      .ok !isModelRef entry := rfl
  rw [Check.run_eq heval]
  cases isModelRef entry with
  | true => rfl
  | false => simp [modelReference, rawProfilePath, printMessage, profilePath]

theorem validateRawProfileEntry_eq (profile : Profile) :
    validateRawProfileEntry env (.str profile.name) profile.raw.2 =
      validateProfileEntry (fun path => env.importString (.str path)) profile := by
  unfold validateRawProfileEntry validateProfileEntry
  have hrole : profile.raw.2.role = .str profile.role := rfl
  have hcodename : profile.raw.2.codename = .str profile.codename := rfl
  rw [hrole, hcodename, identifierRole_run, ownCodename_run, importableContext_run,
    forM_modelReference]
  by_cases hidentifier : (!isPgIdentifier profile.role) = true
  · simp only [hidentifier, if_true]
    rfl
  · by_cases hreserved : reservedCodenames.contains profile.codename = true
    · simp only [hidentifier, hreserved, if_true]
      rfl
    · simp only [hidentifier, hreserved]
      rfl

theorem validateRawProfilesFrom_eq_typed (seen profiles : List Profile) :
    validateRawProfilesFrom env (seen.map Profile.raw) (profiles.map Profile.raw) =
      validateProfilesFrom (fun path => env.importString (.str path)) seen profiles := by
  induction profiles generalizing seen with
  | nil => rfl
  | cons profile rest ih =>
    have hfields : forM rawProfileFields (validateRawProfileField env (seen.map Profile.raw)
        (.str profile.name) profile.raw.2) = forM profileFields (validateProfileField seen profile) := by
      simp only [rawProfileFields, profileFields, List.forM_cons, List.forM_nil]
      rw [validateRawProfileField_eq seen profile ⟨lit "ROLE", Profile.role⟩ _ rfl fun _ => rfl,
        validateRawProfileField_eq seen profile ⟨lit "PERMISSION_CODENAME", Profile.codename⟩ _ rfl
          fun _ => rfl,
        validateRawProfileField_eq seen profile ⟨lit "GROUP_NAME", Profile.groupName⟩ _ rfl
          fun _ => rfl]
    have hseen : seen.map Profile.raw ++ [profile.raw] = (seen ++ [profile]).map Profile.raw := by
      simp
    rw [List.map_cons, validateRawProfilesFrom.eq_def, validateProfilesFrom]
    show (forM rawProfileFields (validateRawProfileField env (seen.map Profile.raw)
        (.str profile.name) profile.raw.2) >>= fun _ =>
      validateRawProfileEntry env (.str profile.name) profile.raw.2 >>= fun _ =>
        validateRawProfilesFrom env (seen.map Profile.raw ++ [profile.raw]) _) = _
    rw [hfields, validateRawProfileEntry_eq, hseen, ih]

/-- On fields of the declared types the check is the one of `Validation`. -/
theorem validateRawProfiles_eq_typed (profiles : List Profile) :
    validateRawProfiles env (profiles.map Profile.raw) =
      validateProfiles (fun path => env.importString (.str path)) profiles := by
  have heval : (someProfile (profiles.map Profile.raw)).condition.eval env =
      .ok (decide (profiles = [])) := by
    cases profiles with
    | nil => rfl
    | cons profile rest => rfl
  have hloop : validateRawProfilesFrom env [] (profiles.map Profile.raw) =
      validateProfilesFrom (fun path => env.importString (.str path)) [] profiles :=
    validateRawProfilesFrom_eq_typed [] profiles
  unfold validateRawProfiles validateProfiles
  rw [Check.run_eq heval]
  by_cases hempty : profiles = []
  · simp [hempty, someProfile, printMessage]
    rfl
  · simp only [hempty]
    exact hloop

end Typed
end McpSql
