import McpSql.Executor.Drift
import McpSql.Profiles.Reconcile
import McpSql.Validation

/-!
# One role, two spellings

A profile's ROLE is compared as it stands by the lookups of `grants.py` and by `session_drift`, and
read as an unquoted name by Postgres when it is interpolated into `SET LOCAL ROLE`, `GRANT` and
`REVOKE`.  The startup check accepts every identifier, so the two readings agree exactly on the roles
that are plain; there a profile's session runs as its own role and no profile touches the grants of
another.
-/

namespace McpSql

open Python PyStr Effect Postgres Grants

/-! ## What a role name is for -/

/-- A database that reads the names in `GRANT` and `REVOKE` by the rules. -/
def ReadsNames (rules : NameRules) (server : GrantsServer) : Prop :=
  ∀ word role, rules.unquoted word = some role → server.unquoted word = role

/-- A role name means one role everywhere. -/
structure OneRole [UnicodeDatabase] (rules : NameRules) (profiles : List Profile) : Prop where
  /-- Interpolated without quotes, it denotes the role the lookups find under it. -/
  denotes : ∀ p ∈ profiles, rules.unquoted p.role = some p.role
  /-- Different profiles do not denote the same role. -/
  separate : ∀ p ∈ profiles, ∀ q ∈ profiles, p ≠ q → ∀ role,
    ¬(rules.unquoted p.role = some role ∧ rules.unquoted q.role = some role)
  /-- A session that was entered has not drifted to another role. -/
  undrifted : ∀ p ∈ profiles, ∀ answer context s sent,
    (enterReadonlySession answer p.role context).run [] = .ok () sent →
      lit "current_user" ∉ (sessionDrift (sessionAfter rules s sent) p.role).map Prod.fst
  /-- Reconciling a profile leaves the grants alone of the role another profile's sessions run as. -/
  isolated : ∀ server, ReadsNames rules server → ∀ p ∈ profiles, ∀ q ∈ profiles, p ≠ q →
    ∀ role, rules.unquoted q.role = some role → ∀ strict apply s,
      (finalState ((reconcileProfile server strict apply p).run s)).grants role = s.grants role

section Roles

variable {rules : NameRules} {profiles : List Profile}

/-- Different accepted profiles have different roles. -/
theorem ProfilesAccepted.role_ne (h : ProfilesAccepted profiles) {p q : Profile}
    (hp : p ∈ profiles) (hq : q ∈ profiles) (hne : p ≠ q) : p.role ≠ q.role := by
  intro heq
  exact hne (List.inj_on_of_nodup_map h.roles hp hq heq)

variable [UnicodeDatabase]

/-- The session of a plain role is in that role. -/
theorem undrifted_of_isPlain {role : PyStr} (hplain : rules.IsPlain role)
    {answer : Statement → Except PyExc Unit} {context : HookResult} {sent : List Statement}
    (s : SessionState) (h : (enterReadonlySession answer role context).run [] = .ok () sent) :
    lit "current_user" ∉ (sessionDrift (sessionAfter rules s sent) role).map Prod.fst := by
  have hdenotes : rules.unquoted role = some role := unquoted_eq_self_iff.mpr hplain
  rw [drifted_iff_of_enterReadonlySession hdenotes s h]
  exact not_not.mpr rfl

/-- Reconciling a profile with a plain role changes the grants of that role only. -/
theorem isolated_of_isPlain {server : GrantsServer} (hreads : ReadsNames rules server)
    {p : Profile} (hplain : rules.IsPlain p.role) {role : PyStr} (hne : role ≠ p.role)
    (strict apply : Bool) (s : GrantsState) :
    (finalState ((reconcileProfile server strict apply p).run s)).grants role = s.grants role := by
  have hexact : server.unquoted p.role = p.role := hreads _ _ (unquoted_eq_self_iff.mpr hplain)
  exact (grants_reconcileProfile hexact strict apply s).1 role hne

/-- Among accepted profiles, a role name means one role everywhere exactly when every ROLE is
plain. -/
theorem oneRole_iff_isPlain (rules : NameRules) (importString : PyStr → Except PyExc Unit)
    (profiles : List Profile) (h : validateProfiles importString profiles = .ok ()) :
    OneRole rules profiles ↔ ∀ p ∈ profiles, rules.IsPlain p.role := by
  have haccepted := accepted_of_validateProfiles h
  constructor
  · intro hone p hp
    exact unquoted_eq_self_iff.mp (hone.denotes p hp)
  · intro hplain
    have hdenotes : ∀ p ∈ profiles, rules.unquoted p.role = some p.role := fun p hp =>
      unquoted_eq_self_iff.mpr (hplain p hp)
    refine ⟨hdenotes, ?_, ?_, ?_⟩
    · rintro p hp q hq hne role ⟨hrole, hrole'⟩
      rw [hdenotes p hp] at hrole
      rw [hdenotes q hq] at hrole'
      exact haccepted.role_ne hp hq hne (Option.some.inj (hrole.trans hrole'.symm))
    · intro p hp answer context s sent hrun
      exact undrifted_of_isPlain (hplain p hp) s hrun
    · intro server hreads p hp q hq hne role hrole strict apply s
      rw [hdenotes q hq] at hrole
      obtain rfl := Option.some.inj hrole
      have hroles := (haccepted.role_ne hp hq hne).symm
      exact isolated_of_isPlain hreads (hplain p hp) hroles strict apply s

end Roles

/-! ## Examples -/

/-- A grammar with no other words than those for roles. -/
def roleWordRules : NameRules where
  keyword word := roleWords.contains word
  keyword_roleWords := by decide

theorem isPlain_of_isWord {role : PyStr} (hlower : role.all fun c => !isAsciiUpper c)
    (hshort : role.length ≤ nameLimit) (hword : roleWords.contains role = false) :
    roleWordRules.IsPlain role := by
  refine ⟨fun c hc => ?_, hshort, hword⟩
  simpa using List.all_eq_true.mp hlower c hc

/-- The roles of the notes and of the billing profile mean one role everywhere. -/
theorem oneRole_default : letI := asciiDatabase
    OneRole roleWordRules [notesProfile, billingProfile] := by
  let _ := asciiDatabase
  refine (oneRole_iff_isPlain roleWordRules importsAll [notesProfile, billingProfile]
    (by decide)).mpr ?_
  intro p hp
  rcases List.mem_cons.mp hp with rfl | hp
  · exact isPlain_of_isWord (by decide) (by decide) (by decide)
  · obtain rfl := List.mem_singleton.mp hp
    exact isPlain_of_isWord (by decide) (by decide) (by decide)

/-- A second profile whose role differs from that of the first one by an upper-case letter. -/
def shoutingProfile : Profile :=
  { billingProfile with role := lit "MCP_readonly_role" }

/-- Both profiles are accepted, and they denote one role. -/
theorem roles_collide : letI := asciiDatabase
    validateProfiles importsAll [notesProfile, shoutingProfile] = .ok () ∧
      roleWordRules.unquoted shoutingProfile.role = some notesProfile.role ∧
      ¬OneRole roleWordRules [notesProfile, shoutingProfile] := by
  let _ := asciiDatabase
  have hsame : roleWordRules.unquoted shoutingProfile.role = some notesProfile.role := by decide
  have hself : roleWordRules.unquoted notesProfile.role = some notesProfile.role := by decide
  refine ⟨by decide, hsame, fun hone => ?_⟩
  have hseparate := hone.separate notesProfile (by simp) shoutingProfile (by simp) (by decide)
  exact hseparate notesProfile.role ⟨hself, hsame⟩

end McpSql
