import Mathlib.Data.List.Dedup
import McpSql.Conf

/-!
# Permission tables

The rows of `django.contrib.auth` that decide which profile a user is bound to, and what
`resolve_profile` (`conf.py`) makes of them: the profile whose codename the user holds, when there
is exactly one.
-/

namespace McpSql

open Python PyStr

/-- The tables of `django.contrib.auth`: users and their flag by primary key, groups by their unique
name, permissions by codename and content type. -/
structure AuthTables where
  isSuperuser : PyStr → Bool := fun _ => false
  permissions : List Permission := []
  groups : List PyStr := []
  groupPermissions : PyStr → List Permission := fun _ => []
  userGroups : PyStr → List PyStr := fun _ => []
  userPermissions : PyStr → List Permission := fun _ => []

/-- `Q(group__user=user) | Q(user=user)`: the permissions of the user's groups, and the user's own. -/
def AuthTables.held (tables : AuthTables) (pk : PyStr) : List Permission :=
  (tables.userGroups pk).flatMap tables.groupPermissions ++ tables.userPermissions pk

/-- The permission of a codename on the content type of `MCPQueryLog`. -/
def profilePermission (codename : PyStr) : Permission :=
  ⟨codename, lit "mcp_sql", lit "mcpquerylog"⟩

/-- The user explicitly holds the permission of the profile. -/
def AuthTables.Holds (tables : AuthTables) (pk : PyStr) (profile : Profile) : Prop :=
  profilePermission profile.codename ∈ tables.held pk

instance (tables : AuthTables) (pk : PyStr) (profile : Profile) :
    Decidable (tables.Holds pk profile) := by
  unfold AuthTables.Holds
  infer_instance

/-- No two profiles have a codename in common. -/
def Settings.UniqueCodenames (settings : Settings) : Prop :=
  ∀ p ∈ settings.profiles, ∀ p' ∈ settings.profiles, p.codename = p'.codename → p = p'

/-- The user explicitly holds the permission of this profile and of no other. -/
structure BoundUniquely (settings : Settings) (tables : AuthTables) (pk : PyStr)
    (profile : Profile) : Prop where
  declared : profile ∈ settings.profiles
  holds : tables.Holds pk profile
  unique : ∀ p ∈ settings.profiles, tables.Holds pk p → p = profile

/-- The codenames that are found belong to profiles the user holds. -/
theorem mem_matchedCodenames {settings : Settings} {tables : AuthTables} {pk codename : PyStr} :
    codename ∈ matchedCodenames settings (tables.held pk) ↔
      ∃ p ∈ settings.profiles, p.codename = codename ∧ tables.Holds pk p := by
  unfold matchedCodenames AuthTables.Holds
  rw [List.mem_dedup, List.mem_map]
  constructor
  · rintro ⟨permission, hpermission, rfl⟩
    rw [List.mem_filter, Bool.and_eq_true, Bool.and_eq_true, decide_eq_true_eq, decide_eq_true_eq,
      List.any_eq_true] at hpermission
    obtain ⟨hheld, ⟨happ, hmodel⟩, p, hp, hcodename⟩ := hpermission
    have hcode : p.codename = permission.codename := by simpa using hcodename
    refine ⟨p, hp, hcode, ?_⟩
    have hpermission : profilePermission p.codename = permission := by
      unfold profilePermission
      rw [hcode, ← happ, ← hmodel]
    rw [hpermission]
    exact hheld
  · rintro ⟨p, hp, rfl, hheld⟩
    have hany : settings.profiles.any (·.codename = p.codename) = true :=
      List.any_eq_true.mpr ⟨p, hp, by simp⟩
    refine ⟨profilePermission p.codename, List.mem_filter.mpr ⟨hheld, ?_⟩, rfl⟩
    exact Bool.and_eq_true _ _ ▸ ⟨rfl, hany⟩

/-- What `resolve_profile` decides, when codenames are unique. -/
theorem resolveProfile_spec {settings : Settings} (hunique : settings.UniqueCodenames)
    (tables : AuthTables) (pk : PyStr) :
    (resolveProfile settings (tables.held pk) = .noPerm ∧
        ∀ p ∈ settings.profiles, ¬tables.Holds pk p) ∨
      (resolveProfile settings (tables.held pk) = .ambiguousProfile ∧
        ∃ p ∈ settings.profiles, ∃ p' ∈ settings.profiles, p ≠ p' ∧ tables.Holds pk p ∧
          tables.Holds pk p') ∨
      ∃ profile, resolveProfile settings (tables.held pk) = .bound profile ∧
        BoundUniquely settings tables pk profile := by
  have hmem : ∀ codename, codename ∈ matchedCodenames settings (tables.held pk) ↔
      ∃ p ∈ settings.profiles, p.codename = codename ∧ tables.Holds pk p :=
    fun codename => mem_matchedCodenames
  have hnodup : (matchedCodenames settings (tables.held pk)).Nodup := List.nodup_dedup _
  unfold resolveProfile
  cases hmatched : matchedCodenames settings (tables.held pk) with
  | nil =>
    refine Or.inl ⟨rfl, ?_⟩
    intro p hp hheld
    have hin := (hmem p.codename).mpr ⟨p, hp, rfl, hheld⟩
    rw [hmatched] at hin
    exact absurd hin List.not_mem_nil
  | cons codename rest =>
    rw [hmatched] at hnodup hmem
    cases rest with
    | nil =>
      refine Or.inr (Or.inr ?_)
      obtain ⟨p, hp, hcodename, hheld⟩ := (hmem codename).mp List.mem_cons_self
      simp only
      cases hfind : settings.profiles.reverse.find? (·.codename = codename) with
      | none =>
        have hnot := List.find?_eq_none.mp hfind p (List.mem_reverse.mpr hp)
        exact absurd hcodename (by simpa using hnot)
      | some profile =>
        have hprofile : profile.codename = codename := by simpa using List.find?_some hfind
        have hdeclared := List.mem_reverse.mp (List.mem_of_find?_eq_some hfind)
        obtain rfl : p = profile := hunique p hp profile hdeclared (hcodename.trans hprofile.symm)
        refine ⟨p, rfl, hp, hheld, ?_⟩
        intro p' hp' hheld'
        have hin := (hmem p'.codename).mpr ⟨p', hp', rfl, hheld'⟩
        exact hunique p' hp' p hp ((List.mem_singleton.mp hin).trans hcodename.symm)
    | cons codename' rest =>
      refine Or.inr (Or.inl ⟨rfl, ?_⟩)
      obtain ⟨p, hp, hcodename, hheld⟩ := (hmem codename).mp List.mem_cons_self
      obtain ⟨p', hp', hcodename', hheld'⟩ :=
        (hmem codename').mp (List.mem_cons_of_mem _ List.mem_cons_self)
      refine ⟨p, hp, p', hp', ?_, hheld, hheld'⟩
      rintro rfl
      have hdistinct : codename ≠ codename' := fun h =>
        (List.nodup_cons.mp hnodup).1 (h ▸ List.mem_cons_self)
      exact hdistinct (hcodename.symm.trans hcodename')

section Resolution

variable {settings : Settings} (hunique : settings.UniqueCodenames) (tables : AuthTables)
  (pk : PyStr)

include hunique

theorem resolveProfile_eq_noPerm_iff :
    resolveProfile settings (tables.held pk) = .noPerm ↔
      ∀ p ∈ settings.profiles, ¬tables.Holds pk p := by
  rcases resolveProfile_spec hunique tables pk with
    ⟨hresolve, hnone⟩ | ⟨hresolve, p, hp, p', hp', hne, hheld, hheld'⟩ | ⟨profile, hresolve, hbound⟩
  · exact iff_of_true hresolve hnone
  · rw [hresolve]
    exact iff_of_false (by simp) fun hnone => hnone p hp hheld
  · rw [hresolve]
    exact iff_of_false (by simp) fun hnone => hnone profile hbound.declared hbound.holds

theorem resolveProfile_eq_ambiguous_iff :
    resolveProfile settings (tables.held pk) = .ambiguousProfile ↔
      ∃ p ∈ settings.profiles, ∃ p' ∈ settings.profiles, p ≠ p' ∧ tables.Holds pk p ∧
        tables.Holds pk p' := by
  rcases resolveProfile_spec hunique tables pk with
    ⟨hresolve, hnone⟩ | ⟨hresolve, htwo⟩ | ⟨profile, hresolve, hbound⟩
  · rw [hresolve]
    refine iff_of_false (by simp) ?_
    rintro ⟨p, hp, -, -, -, hheld, -⟩
    exact hnone p hp hheld
  · exact iff_of_true hresolve htwo
  · rw [hresolve]
    refine iff_of_false (by simp) ?_
    rintro ⟨p, hp, p', hp', hne, hheld, hheld'⟩
    exact hne ((hbound.unique p hp hheld).trans (hbound.unique p' hp' hheld').symm)

theorem resolveProfile_eq_bound_iff (profile : Profile) :
    resolveProfile settings (tables.held pk) = .bound profile ↔
      BoundUniquely settings tables pk profile := by
  rcases resolveProfile_spec hunique tables pk with
    ⟨hresolve, hnone⟩ | ⟨hresolve, p, hp, p', hp', hne, hheld, hheld'⟩ | ⟨profile', hresolve, hbound⟩
  · rw [hresolve]
    exact iff_of_false (by simp) fun hbound => hnone profile hbound.declared hbound.holds
  · rw [hresolve]
    exact iff_of_false (by simp) fun hbound =>
      hne ((hbound.unique p hp hheld).trans (hbound.unique p' hp' hheld').symm)
  · rw [hresolve]
    constructor
    · intro h
      rw [← Resolution.bound.inj h]
      exact hbound
    · intro hbound'
      rw [hbound'.unique profile' hbound.declared hbound.holds]

end Resolution

end McpSql
