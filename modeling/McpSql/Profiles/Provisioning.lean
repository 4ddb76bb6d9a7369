import McpSql.Foundations.GuardedRun
import McpSql.Profiles.Permissions
import McpSql.Validation

/-!
# Provisioning over revisions of the settings

`provision_mcp_profiles` (`signals.py`) creates the permission and the group of every profile and adds
the one to the other; it takes nothing away.  Over the revisions of a deployment this keeps
`resolve_profile` in step with the groups of the users as long as no revision moves a codename to
another group: the old group keeps the permission.
-/

namespace McpSql

open Python PyStr GuardedRun

/-! ## One migrate -/

/-- `get_or_create`, and `add` on a many-to-many relation: a row is there once. -/
def getOrCreate {α : Type} [DecidableEq α] (row : α) (rows : List α) : List α :=
  if row ∈ rows then rows else rows ++ [row]

theorem mem_getOrCreate {α : Type} [DecidableEq α] {row other : α} {rows : List α} :
    other ∈ getOrCreate row rows ↔ other ∈ rows ∨ other = row := by
  unfold getOrCreate
  by_cases h : row ∈ rows
  · rw [if_pos h]
    refine ⟨Or.inl, ?_⟩
    rintro (hother | rfl)
    · exact hother
    · exact h
  · rw [if_neg h, List.mem_append, List.mem_singleton]

/-- The loop body of `provision_mcp_profiles`. -/
def provisionProfile (tables : AuthTables) (profile : Profile) : AuthTables :=
  { tables with
    permissions := getOrCreate (profilePermission profile.codename) tables.permissions
    groups := getOrCreate profile.groupName tables.groups
    groupPermissions := Function.update tables.groupPermissions profile.groupName
      (getOrCreate (profilePermission profile.codename)
        (tables.groupPermissions profile.groupName)) }

/-- `provision_mcp_profiles`, for the label of the sender and the alias it is called with. -/
def provisionMcpProfiles (settings : Settings) (sender usingAlias : Option PyStr)
    (tables : AuthTables) : AuthTables :=
  if sender ≠ some (lit "mcp_sql") then tables
  else if usingAlias.any fun alias' => alias' ≠ [] && alias' ≠ lit "default" then tables
  else settings.profiles.foldl provisionProfile tables

/-- The group of a profile, and no other, gains the permission of the profile. -/
theorem mem_groupPermissions_foldl (profiles : List Profile) (tables : AuthTables)
    (permission : Permission) (group : PyStr) :
    permission ∈ (profiles.foldl provisionProfile tables).groupPermissions group ↔
      permission ∈ tables.groupPermissions group ∨
        ∃ p ∈ profiles, p.groupName = group ∧ permission = profilePermission p.codename := by
  induction profiles generalizing tables with
  | nil => simp
  | cons profile rest ih =>
    rw [List.foldl_cons, ih]
    have hstep : permission ∈ (provisionProfile tables profile).groupPermissions group ↔
        permission ∈ tables.groupPermissions group ∨
          (profile.groupName = group ∧ permission = profilePermission profile.codename) := by
      unfold provisionProfile
      by_cases hgroup : profile.groupName = group
      · subst hgroup
        simp only [Function.update_self, mem_getOrCreate, true_and]
      · simp only [Function.update_of_ne (Ne.symm hgroup), hgroup, false_and, or_false]
    rw [hstep]
    simp only [List.exists_mem_cons_iff, or_assoc]

/-- Provisioning changes no membership and no permission of a user. -/
theorem users_foldl (profiles : List Profile) (tables : AuthTables) :
    (profiles.foldl provisionProfile tables).userGroups = tables.userGroups ∧
      (profiles.foldl provisionProfile tables).userPermissions = tables.userPermissions := by
  induction profiles generalizing tables with
  | nil => exact ⟨rfl, rfl⟩
  | cons profile rest ih =>
    rw [List.foldl_cons]
    exact ih (provisionProfile tables profile)

/-- Provisioning twice with the same settings is provisioning once, as far as groups go. -/
theorem mem_groupPermissions_provision_twice (settings : Settings) (tables : AuthTables)
    (permission : Permission) (group : PyStr) :
    permission ∈ (provisionMcpProfiles settings (some (lit "mcp_sql")) none
        (provisionMcpProfiles settings (some (lit "mcp_sql")) none tables)).groupPermissions
          group ↔
      permission ∈ (provisionMcpProfiles settings (some (lit "mcp_sql")) none
        tables).groupPermissions group := by
  simp only [provisionMcpProfiles, ne_eq, not_true, if_false, Option.any_none, Bool.false_eq_true,
    mem_groupPermissions_foldl, or_assoc, or_self]

/-! ## A deployment -/

/-- The settings in force, once there are any, and the tables. -/
structure Deployment where
  settings : Option Settings := none
  tables : AuthTables

/-- What happens to a deployment: a revision of the settings with the migrate that follows, or an
edit of a user's groups. -/
inductive Change where
  | revise (settings : Settings)
  | setGroups (pk : PyStr) (groups : List PyStr)

/-- The deployment after a change. -/
def Deployment.change (d : Deployment) : Change → Deployment
  | .revise settings =>
      ⟨some settings, provisionMcpProfiles settings (some (lit "mcp_sql")) none d.tables⟩
  | .setGroups pk groups =>
      { d with tables := { d.tables with
          userGroups := Function.update d.tables.userGroups pk groups } }

/-- A change that can happen: only settings that pass the startup check come into force. -/
def Evolves [UnicodeDatabase] (importString : PyStr → Except PyExc Unit) (d : Deployment)
    (change : Change) (d' : Deployment) : Prop :=
  (∀ settings, change = .revise settings →
    validateProfiles importString settings.profiles = .ok ()) ∧ d' = d.change change

/-- A database before the first migrate. -/
structure Deployment.Fresh (d : Deployment) : Prop where
  settings : d.settings = none
  groups : ∀ group, d.tables.groupPermissions group = []
  userGroups : ∀ pk, d.tables.userGroups pk = []
  userPermissions : ∀ pk, d.tables.userPermissions pk = []

/-- The change moves no codename: where a group carries the permission of a profile, it is the
profile's group. -/
def MovesNoCodename (d : Deployment) : Change → Prop
  | .revise settings => ∀ p ∈ settings.profiles, ∀ group,
      profilePermission p.codename ∈ d.tables.groupPermissions group → group = p.groupName
  | .setGroups _ _ => True

/-- The user is in the group of the profile. -/
def AuthTables.InGroup (tables : AuthTables) (pk : PyStr) (profile : Profile) : Prop :=
  profile.groupName ∈ tables.userGroups pk

/-- `resolve_profile` follows the groups of the user. -/
structure Tracks (settings : Settings) (tables : AuthTables) (pk : PyStr) : Prop where
  bound : ∀ profile, resolveProfile settings (tables.held pk) = .bound profile ↔
    profile ∈ settings.profiles ∧ tables.InGroup pk profile ∧
      ∀ p ∈ settings.profiles, tables.InGroup pk p → p = profile
  noPerm : resolveProfile settings (tables.held pk) = .noPerm ↔
    ∀ p ∈ settings.profiles, ¬tables.InGroup pk p
  ambiguous : resolveProfile settings (tables.held pk) = .ambiguousProfile ↔
    ∃ p ∈ settings.profiles, ∃ p' ∈ settings.profiles, p ≠ p' ∧ tables.InGroup pk p ∧
      tables.InGroup pk p'

/-! ## The invariant -/

/-- Users hold permissions through groups only, and each current profile's permission is carried by
its own group and no other. -/
structure InStep (d : Deployment) : Prop where
  noDirect : ∀ pk, d.tables.userPermissions pk = []
  accepted : ∀ settings, d.settings = some settings → ProfilesAccepted settings.profiles
  carried : ∀ settings, d.settings = some settings → ∀ p ∈ settings.profiles, ∀ group,
    profilePermission p.codename ∈ d.tables.groupPermissions group ↔ group = p.groupName

theorem Deployment.Fresh.inStep {d : Deployment} (h : d.Fresh) : InStep d := by
  have hnone : ∀ settings, d.settings ≠ some settings := fun settings => by simp [h.settings]
  exact ⟨h.userPermissions, fun settings hs => absurd hs (hnone settings),
    fun settings hs => absurd hs (hnone settings)⟩

theorem profilePermission_inj {codename codename' : PyStr} :
    profilePermission codename = profilePermission codename' ↔ codename = codename' := by
  simp [profilePermission]

theorem uniqueCodenames_of_accepted {settings : Settings}
    (h : ProfilesAccepted settings.profiles) : settings.UniqueCodenames :=
  fun _ hp _ hp' heq => List.inj_on_of_nodup_map h.codenames hp hp' heq

/-- After a revision a group carries the permission of a profile if it did before, or is its
group. -/
theorem mem_groupPermissions_revise {settings : Settings}
    (haccepted : ProfilesAccepted settings.profiles) (d : Deployment) {p : Profile}
    (hp : p ∈ settings.profiles) (group : PyStr) :
    profilePermission p.codename ∈ (d.change (.revise settings)).tables.groupPermissions group ↔
      profilePermission p.codename ∈ d.tables.groupPermissions group ∨ group = p.groupName := by
  have hfold : (d.change (.revise settings)).tables =
      settings.profiles.foldl provisionProfile d.tables := rfl
  rw [hfold, mem_groupPermissions_foldl]
  apply or_congr_right
  constructor
  · rintro ⟨q, hq, hgroup, hpermission⟩
    obtain rfl := uniqueCodenames_of_accepted haccepted p hp q hq
      (profilePermission_inj.mp hpermission)
    exact hgroup.symm
  · rintro rfl
    exact ⟨p, hp, rfl, rfl⟩

/-- A change that moves no codename keeps the invariant. -/
theorem InStep.change [UnicodeDatabase] {importString : PyStr → Except PyExc Unit}
    {d d' : Deployment} {change : Change} (h : InStep d) (hkeeps : MovesNoCodename d change)
    (hevolves : Evolves importString d change d') : InStep d' := by
  obtain ⟨hvalid, rfl⟩ := hevolves
  cases change with
  | revise settings =>
    have haccepted := accepted_of_validateProfiles (hvalid settings rfl)
    constructor
    · intro pk
      have husers := (users_foldl settings.profiles d.tables).2
      exact (congrFun husers pk).trans (h.noDirect pk)
    · intro settings' hsettings'
      obtain rfl := Option.some.inj hsettings'
      exact haccepted
    · intro settings' hsettings' p hp group
      obtain rfl := Option.some.inj hsettings'
      rw [mem_groupPermissions_revise haccepted d hp]
      exact ⟨fun hcarried => hcarried.elim (hkeeps p hp group) id, Or.inr⟩
  | setGroups pk groups => exact ⟨h.noDirect, h.accepted, h.carried⟩

/-- In step, a user holds a profile exactly by being in its group. -/
theorem InStep.holds_iff {d : Deployment} (h : InStep d) {settings : Settings}
    (hsettings : d.settings = some settings) (pk : PyStr) {p : Profile}
    (hp : p ∈ settings.profiles) : d.tables.Holds pk p ↔ d.tables.InGroup pk p := by
  unfold AuthTables.Holds AuthTables.held AuthTables.InGroup
  rw [h.noDirect, List.append_nil, List.mem_flatMap]
  constructor
  · rintro ⟨group, hgroup, hcarried⟩
    rwa [(h.carried settings hsettings p hp group).mp hcarried] at hgroup
  · intro hgroup
    exact ⟨p.groupName, hgroup, (h.carried settings hsettings p hp p.groupName).mpr rfl⟩

theorem InStep.tracks {d : Deployment} (h : InStep d) {settings : Settings}
    (hsettings : d.settings = some settings) (pk : PyStr) : Tracks settings d.tables pk := by
  have hunique := uniqueCodenames_of_accepted (h.accepted settings hsettings)
  have hholds := fun p (hp : p ∈ settings.profiles) => h.holds_iff hsettings pk hp
  constructor
  · intro profile
    rw [resolveProfile_eq_bound_iff hunique]
    constructor
    · intro hbound
      refine ⟨hbound.declared, (hholds _ hbound.declared).mp hbound.holds, fun p hp hgroup => ?_⟩
      exact hbound.unique p hp ((hholds p hp).mpr hgroup)
    · rintro ⟨hdeclared, hgroup, hone⟩
      exact ⟨hdeclared, (hholds _ hdeclared).mpr hgroup, fun p hp hheld =>
        hone p hp ((hholds p hp).mp hheld)⟩
  · rw [resolveProfile_eq_noPerm_iff hunique]
    exact forall₂_congr fun p hp => not_congr (hholds p hp)
  · rw [resolveProfile_eq_ambiguous_iff hunique]
    constructor
    · rintro ⟨p, hp, p', hp', hne, hheld, hheld'⟩
      exact ⟨p, hp, p', hp', hne, (hholds p hp).mp hheld, (hholds p' hp').mp hheld'⟩
    · rintro ⟨p, hp, p', hp', hne, hgroup, hgroup'⟩
      exact ⟨p, hp, p', hp', hne, (hholds p hp).mpr hgroup, (hholds p' hp').mpr hgroup'⟩

/-! ## A codename that moves -/

/-- A user in the group a codename has moved away from is not resolved by the groups. -/
theorem not_tracks_of_moved {settings : Settings} (haccepted : ProfilesAccepted settings.profiles)
    {d : Deployment} {p : Profile} (hp : p ∈ settings.profiles) {group : PyStr}
    (hcarried : profilePermission p.codename ∈ d.tables.groupPermissions group)
    (hmoved : group ≠ p.groupName) (pk : PyStr) :
    ¬Tracks settings
      ((d.change (.revise settings)).change (.setGroups pk [group])).tables pk := by
  intro htracks
  have hunique := uniqueCodenames_of_accepted haccepted
  have hgroups : ∀ q, ((d.change (.revise settings)).change
      (.setGroups pk [group])).tables.InGroup pk q ↔ q.groupName = group := by
    intro q
    simp [Deployment.change, AuthTables.InGroup]
  have hheld : ((d.change (.revise settings)).change
      (.setGroups pk [group])).tables.Holds pk p := by
    have hstill := (mem_groupPermissions_revise haccepted d hp group).mpr (Or.inl hcarried)
    refine List.mem_append_left _ (List.mem_flatMap.mpr ⟨group, ?_, hstill⟩)
    simp [Deployment.change]
  by_cases hcurrent : ∃ q ∈ settings.profiles, q.groupName = group
  · obtain ⟨q, hq, hgroup⟩ := hcurrent
    have hbound := (htracks.bound q).mpr ⟨hq, (hgroups q).mpr hgroup, fun q' hq' hgroup' =>
      List.inj_on_of_nodup_map haccepted.groups hq' hq (((hgroups q').mp hgroup').trans hgroup.symm)⟩
    have hsame := ((resolveProfile_eq_bound_iff hunique _ pk q).mp hbound).unique p hp hheld
    exact hmoved (hsame ▸ hgroup.symm)
  · have hnone := htracks.noPerm.mpr fun q hq hgroup => hcurrent ⟨q, hq, (hgroups q).mp hgroup⟩
    exact (resolveProfile_eq_noPerm_iff hunique _ pk).mp hnone p hp hheld

section Runs

variable [UnicodeDatabase] (importString : PyStr → Except PyExc Unit)

/-- From a fresh database, revisions that move no codename keep `resolve_profile` in step with the
groups of every user, whatever their memberships; a revision that does move one puts it out of step
for some membership. -/
theorem provisioning_tracks_of_movesNoCodename {d d' : Deployment} (hfresh : d.Fresh)
    (hrun : Run (Evolves importString) MovesNoCodename d d') :
    (∀ settings, d'.settings = some settings → ∀ pk, Tracks settings d'.tables pk) ∧
      ∀ settings, validateProfiles importString settings.profiles = .ok () →
        ¬MovesNoCodename d' (.revise settings) → ∃ group, ∀ pk, ¬Tracks settings
          ((d'.change (.revise settings)).change (.setGroups pk [group])).tables pk := by
  have hinStep : InStep d' := invariant hrun hfresh.inStep fun _ _ _ h hkeeps hevolves =>
    h.change hkeeps hevolves
  constructor
  · exact fun settings hsettings pk => hinStep.tracks hsettings pk
  · intro settings hvalid hmoves
    have haccepted := accepted_of_validateProfiles hvalid
    obtain ⟨p, hp, group, hcarried, hmoved⟩ : ∃ p ∈ settings.profiles, ∃ group,
        profilePermission p.codename ∈ d'.tables.groupPermissions group ∧ group ≠ p.groupName := by
      simpa only [MovesNoCodename, not_forall, exists_prop] using hmoves
    exact ⟨group, fun pk => not_tracks_of_moved haccepted hp hcarried hmoved pk⟩

end Runs

/-! ## An example -/

/-- Two profiles with the given codenames. -/
def twoTierSettings (codename codename' : PyStr) : Settings :=
  { exampleSettings with profiles :=
      [⟨lit "default", lit "mcp_readonly_role", codename, lit "mcp_sql_users", [lit "notes.Note"],
        none⟩,
        ⟨lit "billing", lit "mcp_billing_role", codename', lit "mcp_sql_billing",
        [lit "billing.Invoice"], none⟩] }

/-- Two profiles. -/
def firstRevision : Settings := twoTierSettings (lit "use_mcp_session") (lit "use_mcp_billing")

/-- The same profiles with a new codename for the second. -/
def renamedRevision : Settings := twoTierSettings (lit "use_mcp_session") (lit "use_mcp_invoices")

/-- The same profiles with their codenames swapped. -/
def swappedRevision : Settings := twoTierSettings (lit "use_mcp_billing") (lit "use_mcp_session")

/-- The database before the first migrate. -/
def freshDeployment : Deployment := { tables := {} }

theorem fresh_freshDeployment : freshDeployment.Fresh :=
  ⟨rfl, fun _ => rfl, fun _ => rfl, fun _ => rfl⟩

theorem evolves_firstRevision : letI := asciiDatabase
    Evolves importsAll freshDeployment (.revise firstRevision)
      (freshDeployment.change (.revise firstRevision)) := by
  let _ := asciiDatabase
  refine ⟨fun settings hsettings => ?_, rfl⟩
  obtain rfl := Change.revise.inj hsettings
  decide

/-- A codename no group carries yet is moved by nothing. -/
theorem movesNoCodename_renamedRevision :
    MovesNoCodename (freshDeployment.change (.revise firstRevision)) (.revise renamedRevision) := by
  have hown : ∀ p ∈ renamedRevision.profiles, ∀ q ∈ firstRevision.profiles,
      profilePermission p.codename = profilePermission q.codename → q.groupName = p.groupName := by
    decide
  intro p hp group hcarried
  have hfold : (freshDeployment.change (.revise firstRevision)).tables =
      firstRevision.profiles.foldl provisionProfile freshDeployment.tables := rfl
  rw [hfold, mem_groupPermissions_foldl] at hcarried
  rcases hcarried with hbefore | ⟨q, hq, rfl, hpermission⟩
  · exact absurd hbefore List.not_mem_nil
  · exact hown p hp q hq hpermission

/-- A user put into a group after the second migrate is bound to the profile of the group. -/
theorem provisioning_tracks_renamedRevision : letI := asciiDatabase
    Tracks renamedRevision (((freshDeployment.change (.revise firstRevision)).change
      (.revise renamedRevision)).change (.setGroups (lit "7") [lit "mcp_sql_billing"])).tables
        (lit "7") := by
  let _ := asciiDatabase
  let first := freshDeployment.change (.revise firstRevision)
  have hmoves : MovesNoCodename freshDeployment (.revise firstRevision) :=
    fun p _ group hcarried => absurd hcarried List.not_mem_nil
  have hrename : Evolves importsAll first (.revise renamedRevision)
      (first.change (.revise renamedRevision)) := by
    refine ⟨fun settings hsettings => ?_, rfl⟩
    obtain rfl := Change.revise.inj hsettings
    decide
  have hedit : Evolves importsAll (first.change (.revise renamedRevision))
      (.setGroups (lit "7") [lit "mcp_sql_billing"]) _ :=
    ⟨fun settings h => absurd h (by simp), rfl⟩
  have hrun : Run (Evolves importsAll) MovesNoCodename freshDeployment _ :=
    ((Run.snoc .refl _ hmoves evolves_firstRevision).snoc _ movesNoCodename_renamedRevision
      hrename).snoc (.setGroups (lit "7") [lit "mcp_sql_billing"]) trivial hedit
  exact (provisioning_tracks_of_movesNoCodename importsAll fresh_freshDeployment hrun).1
    renamedRevision rfl (lit "7")

/-- Swapping two codenames leaves both permissions with both groups. -/
theorem provisioning_not_always_tracks : letI := asciiDatabase
    ¬∀ (d d' : Deployment), d.Fresh → FreeRun (Evolves importsAll) d d' →
      ∀ settings, d'.settings = some settings → ∀ pk, Tracks settings d'.tables pk := by
  let _ := asciiDatabase
  intro htracks
  let first := freshDeployment.change (.revise firstRevision)
  have hvalid : validateProfiles importsAll swappedRevision.profiles = .ok () := by decide
  have hswap : Evolves importsAll first (.revise swappedRevision)
      (first.change (.revise swappedRevision)) := by
    refine ⟨fun settings hsettings => ?_, rfl⟩
    obtain rfl := Change.revise.inj hsettings
    exact hvalid
  have hedit : Evolves importsAll (first.change (.revise swappedRevision))
      (.setGroups (lit "7") [lit "mcp_sql_users"]) _ := ⟨fun settings h => absurd h (by simp), rfl⟩
  have hrun : FreeRun (Evolves importsAll) freshDeployment _ :=
    ((Run.snoc .refl _ trivial evolves_firstRevision).snoc _ trivial hswap).snoc _ trivial hedit
  have hafter := htracks _ _ fresh_freshDeployment hrun swappedRevision rfl (lit "7")
  have hbilling : (⟨lit "billing", lit "mcp_billing_role", lit "use_mcp_session",
      lit "mcp_sql_billing", [lit "billing.Invoice"], none⟩ : Profile) ∈
        swappedRevision.profiles := by decide
  have hcarried : profilePermission (lit "use_mcp_session") ∈
      first.tables.groupPermissions (lit "mcp_sql_users") := by decide
  exact not_tracks_of_moved (accepted_of_validateProfiles hvalid) hbilling hcarried (by decide)
    (lit "7") hafter

end McpSql
