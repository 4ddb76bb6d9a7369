import McpSql.Profiles.Grants

/-!
# Reconciliation converges

`reconcile_grants` over profiles with distinct roles: each role keeps its grants or ends with exactly
the tables its profile declares, wherever a failure strikes, and the roles of no profile are left
alone.  The statements of one role are a transaction, and the loop over the profiles is one of
`KeyedLoop` with the roles for keys.
-/

namespace McpSql.Grants

open Python PyStr Effect KeyedLoop

/-! ## The statements of one role -/

section Statements

variable (server : GrantsServer)

/-- A statement that succeeds has its effect. -/
theorem grants_of_run_execute {statement : GrantStatement} {s t : GrantsState} {u : Unit}
    (h : (execute server statement).run s = .ok u t) :
    t.grants = statement.effect server s.grants := by
  unfold execute at h
  cases hanswer : server.answer statement with
  | ok answered =>
    simp only [hanswer, EStateM.run_bind, EStateM.run_modify, run_call_ok,
      EStateM.Result.ok.injEq] at h
    rw [← h.2]
  | error e => simp [hanswer] at h

/-- Statements that succeed have their effects one after another. -/
theorem grants_of_run_forM {tables : List PyStr} {statement : PyStr → GrantStatement}
    {s t : GrantsState} {u : PUnit}
    (h : (forM tables fun table => execute server (statement table)).run s = .ok u t) :
    t.grants = tables.foldl (fun grants table => (statement table).effect server grants)
      s.grants := by
  induction tables generalizing s with
  | nil =>
    obtain ⟨-, rfl⟩ := EStateM.Result.ok.inj h
    rfl
  | cons table rest ih =>
    rw [List.forM_cons] at h
    obtain ⟨v, s', hrun, hrest⟩ := run_bind_eq_ok.mp h
    rw [ih hrest, grants_of_run_execute server hrun]
    rfl

/-- Granting tables one after another adds them to the grants of the role. -/
theorem foldl_grant (role : PyStr) (tables : List PyStr) (grants : PyStr → Finset PyStr) :
    tables.foldl (fun grants table => (GrantStatement.grant table role).effect server grants)
        grants =
      Function.update grants (server.unquoted role)
        (grants (server.unquoted role) ∪ tables.toFinset) := by
  induction tables generalizing grants with
  | nil => simp
  | cons table rest ih =>
    rw [List.foldl_cons, ih]
    simp only [GrantStatement.effect, Function.update_self, Function.update_idem]
    congr 1
    ext other
    simp only [Finset.mem_union, Finset.mem_insert, List.mem_toFinset, List.mem_cons]
    tauto

/-- Revoking tables one after another removes them from the grants of the role. -/
theorem foldl_revoke (role : PyStr) (tables : List PyStr) (grants : PyStr → Finset PyStr) :
    tables.foldl (fun grants table => (GrantStatement.revoke table role).effect server grants)
        grants =
      Function.update grants (server.unquoted role)
        (grants (server.unquoted role) \ tables.toFinset) := by
  induction tables generalizing grants with
  | nil => simp
  | cons table rest ih =>
    rw [List.foldl_cons, ih]
    simp only [GrantStatement.effect, Function.update_self, Function.update_idem]
    congr 1
    ext other
    simp only [Finset.mem_sdiff, Finset.mem_erase, List.mem_toFinset, List.mem_cons]
    tauto

end Statements

/-- Adding what is missing and removing what is too much leaves what is declared. -/
theorem union_sdiff_sdiff (declared current : Finset PyStr) :
    (current ∪ (declared \ current)) \ (current \ declared) = declared := by
  ext table
  simp only [Finset.mem_sdiff, Finset.mem_union]
  tauto

section Roles

variable {server : GrantsServer} {role : PyStr}

/-- A transaction that commits leaves the role with exactly the declared tables, and the other roles
as they were. -/
theorem grants_of_run_applyDrift (hexact : server.unquoted role = role) {tables : Finset PyStr}
    {s t : GrantsState} {u : Unit}
    (h : (applyDrift server role (driftOf tables (s.grants role))).run s = .ok u t) :
    t.grants = Function.update s.grants role tables := by
  obtain ⟨v, s', hgranted, hrevoked⟩ := run_bind_eq_ok.mp (run_of_run_transaction h)
  have hgrants := grants_of_run_forM server hgranted
  have hrevokes := grants_of_run_forM server hrevoked
  rw [foldl_grant, hexact] at hgrants
  rw [foldl_revoke, hexact, hgrants, Function.update_self, Function.update_idem] at hrevokes
  rw [hrevokes]
  congr 1
  have hsorted : ∀ set : Finset PyStr, (sorted set).toFinset = set := fun set => by
    ext table
    simp
  simp only [driftOf, hsorted]
  exact union_sdiff_sdiff tables (s.grants role)

/-- A transaction that fails changes no grant. -/
theorem grants_of_run_applyDrift_error {drift : ProfileDrift} {s t : GrantsState} {e : PyExc}
    (h : (applyDrift server role drift).run s = .error e t) : t.grants = s.grants := by
  rw [restored_of_run_transaction h]

end Roles

/-! ## Statements that all succeed -/

/-- The database takes every statement. -/
structure Obeys (server : GrantsServer) : Prop where
  answer : ∀ statement, server.answer statement = .ok ()
  commit : ∀ role, server.commit role = .ok ()

theorem Obeys.forM_returns {server : GrantsServer} (h : Obeys server) (tables : List PyStr)
    (statement : PyStr → GrantStatement) (s : GrantsState) :
    ∃ t, (forM tables fun table => execute server (statement table) : Reconciling PUnit).run s =
      .ok ⟨⟩ t := by
  induction tables generalizing s with
  | nil => exact ⟨s, rfl⟩
  | cons table rest ih =>
    have hfirst : ∃ t, (execute server (statement table)).run s = .ok () t := by
      unfold execute
      rw [h.answer]
      exact ⟨_, rfl⟩
    obtain ⟨t, hrun⟩ := hfirst
    obtain ⟨u, hruns⟩ := ih t
    refine ⟨u, ?_⟩
    rw [List.forM_cons, EStateM.run_bind, hrun]
    exact hruns

theorem Obeys.applyDrift_returns {server : GrantsServer} (h : Obeys server) (role : PyStr)
    (drift : ProfileDrift) (s : GrantsState) :
    ∃ t, (applyDrift server role drift).run s = .ok () t := by
  obtain ⟨t, hgranted⟩ := h.forM_returns drift.granted (.grant · role) s
  obtain ⟨u, hrevoked⟩ := h.forM_returns drift.revoked (.revoke · role) t
  refine ⟨u, run_transaction_ok ?_ (h.commit role)⟩
  rw [EStateM.run_bind, hgranted]
  exact hrevoked

/-- Without a difference there is no drift. -/
theorem changed_driftOf_iff (declared current : Finset PyStr) :
    (driftOf declared current).changed = true ↔ current ≠ declared := by
  have hnil : ∀ set : Finset PyStr, (sorted set).isEmpty = true ↔ set = ∅ := fun set => by
    rw [List.isEmpty_iff, sorted_eq_nil_iff]
  have hunchanged : (driftOf declared current).changed = false ↔ current = declared := by
    unfold ProfileDrift.changed driftOf
    simp only [Bool.or_eq_false_iff, Bool.not_eq_false', hnil, Finset.sdiff_eq_empty_iff_subset]
    constructor
    · rintro ⟨hsub, hsup⟩
      exact Finset.Subset.antisymm hsup hsub
    · rintro rfl
      exact ⟨Finset.Subset.refl _, Finset.Subset.refl _⟩
  rw [← Bool.not_eq_false, Ne, hunchanged]

/-! ## One profile -/

section Profile

variable [UnicodeDatabase] {server : GrantsServer} {profile : Profile}

/-- Everything up to the comparison succeeds, and the profile declares these tables. -/
structure Ready (server : GrantsServer) (profile : Profile) (tables : Finset PyStr) : Prop where
  notSelfReferential : selfReferentialEntries profile = []
  environment : envFailure server profile = .ok none
  parity : verifyViewParity server profile = .ok ()
  declared : declared server profile = .ok tables
  onDefault : verifyDefaultAlias server = .ok ()
  readable : server.readGrants profile.role = .ok ()

/-- The environment of the profile is not set up. -/
structure Skips (server : GrantsServer) (profile : Profile) (failure : EnvFailure) : Prop where
  notSelfReferential : selfReferentialEntries profile = []
  environment : envFailure server profile = .ok (some failure)

/-- A profile that is ready is compared, and its drift is removed if there is any and it is to be
applied. -/
theorem run_reconcileProfile_ready {tables : Finset PyStr} (h : Ready server profile tables)
    (strict apply : Bool) (s : GrantsState) :
    (reconcileProfile server strict apply profile).run s =
      if apply && (driftOf tables (s.grants profile.role)).changed then
        match (applyDrift server profile.role (driftOf tables (s.grants profile.role))).run s with
        | .ok _ t => .ok (driftOf tables (s.grants profile.role)) t
        | .error e t => .error e t
      else .ok (driftOf tables (s.grants profile.role)) s := by
  unfold reconcileProfile
  rw [h.notSelfReferential]
  simp only [EStateM.run_bind, h.environment, run_call_ok, reconcileRole, grantedTables, h.parity,
    h.declared, h.onDefault, h.readable, EStateM.run_get, EStateM.run_pure]
  by_cases hchanged : (apply && (driftOf tables (s.grants profile.role)).changed) = true
  · simp only [hchanged, if_true, EStateM.run_bind]
    cases (applyDrift server profile.role (driftOf tables (s.grants profile.role))).run s <;> rfl
  · simp only [hchanged]
    rfl

/-- A database that takes every statement lets a profile that is ready return. -/
theorem reconcileProfile_returns {tables : Finset PyStr} (h : Ready server profile tables)
    (hobeys : Obeys server) (strict apply : Bool) (s : GrantsState) :
    ∃ drift t, (reconcileProfile server strict apply profile).run s = .ok drift t := by
  rw [run_reconcileProfile_ready h]
  obtain ⟨t, hrun⟩ := hobeys.applyDrift_returns profile.role
    (driftOf tables (s.grants profile.role)) s
  by_cases hchanged : (apply && (driftOf tables (s.grants profile.role)).changed) = true
  · rw [if_pos hchanged, hrun]
    exact ⟨_, t, rfl⟩
  · rw [if_neg hchanged]
    exact ⟨_, s, rfl⟩

/-- A skipped profile is reported, and its grants are left alone. -/
theorem run_reconcileProfile_skips {failure : EnvFailure} (h : Skips server profile failure)
    (strict apply : Bool) (s : GrantsState) :
    (reconcileProfile server strict apply profile).run s =
      if strict then .error (.grantsReconcile (failure.message profile)) s
      else .ok { skippedReason := failure.reason } { s with log := s.log ++
        [⟨.warning, lit "MCP grants reconcile skipped: " ++ failure.message profile⟩] } := by
  unfold reconcileProfile
  rw [h.notSelfReferential]
  simp only [EStateM.run_bind, h.environment, run_call_ok]
  cases strict <;> rfl

/-- A profile is ready, or skipped, or raises before a statement is sent. -/
theorem reconcileProfile_cases (server : GrantsServer) (profile : Profile) :
    (∃ tables, Ready server profile tables) ∨ (∃ failure, Skips server profile failure) ∨
      ∃ e, ∀ strict apply s, (reconcileProfile server strict apply profile).run s = .error e s := by
  unfold reconcileProfile
  cases hself : selfReferentialEntries profile with
  | cons bad rest => exact Or.inr (Or.inr ⟨_, fun strict apply s => rfl⟩)
  | nil =>
    cases henv : envFailure server profile with
    | error e => exact Or.inr (Or.inr ⟨e, fun strict apply s => rfl⟩)
    | ok failure =>
      cases failure with
      | some failure => exact Or.inr (Or.inl ⟨failure, hself, henv⟩)
      | none =>
        unfold reconcileRole grantedTables
        cases hparity : verifyViewParity server profile with
        | error e => exact Or.inr (Or.inr ⟨e, fun strict apply s => rfl⟩)
        | ok u =>
          cases hdeclared : declared server profile with
          | error e => exact Or.inr (Or.inr ⟨e, fun strict apply s => rfl⟩)
          | ok tables =>
            cases halias : verifyDefaultAlias server with
            | error e => exact Or.inr (Or.inr ⟨e, fun strict apply s => rfl⟩)
            | ok v =>
              cases hread : server.readGrants profile.role with
              | error e => exact Or.inr (Or.inr ⟨e, fun strict apply s => rfl⟩)
              | ok r => exact Or.inl ⟨tables, hself, henv, hparity, hdeclared, halias, hread⟩

end Profile

/-! ## All profiles -/

section Profiles

variable [UnicodeDatabase] {server : GrantsServer} {profiles : List Profile}

/-- What reconciling a profile may do to the grants of its role: nothing, or make them exactly the
declared tables. -/
def KeepsOrDeclares (server : GrantsServer) (profile : Profile) (before after : Finset PyStr) :
    Prop :=
  after = before ∨ declared server profile = .ok after

/-- A profile changes the grants of its own role only, and changes them to the declared tables. -/
theorem grants_reconcileProfile {profile : Profile} (hexact : server.unquoted profile.role =
    profile.role) (strict apply : Bool) (s : GrantsState) :
    let final := finalState ((reconcileProfile server strict apply profile).run s)
    (∀ role, role ≠ profile.role → final.grants role = s.grants role) ∧
      KeepsOrDeclares server profile (s.grants profile.role) (final.grants profile.role) := by
  rcases reconcileProfile_cases server profile with ⟨tables, hready⟩ | ⟨failure, hskips⟩ | ⟨e, herror⟩
  · rw [run_reconcileProfile_ready hready]
    by_cases happly : (apply && (driftOf tables (s.grants profile.role)).changed) = true
    · rw [if_pos happly]
      cases hrun : (applyDrift server profile.role
          (driftOf tables (s.grants profile.role))).run s with
      | ok u t =>
        have hgrants := grants_of_run_applyDrift hexact hrun
        simp only [finalState_ok, hgrants]
        constructor
        · intro role hrole
          exact Function.update_of_ne hrole _ _
        · rw [Function.update_self]
          exact Or.inr hready.declared
      | error e t =>
        have hgrants := grants_of_run_applyDrift_error hrun
        have hsame : ∀ role, t.grants role = s.grants role := fun role => by rw [hgrants]
        exact ⟨fun role _ => hsame role, Or.inl (hsame profile.role)⟩
    · rw [if_neg happly]
      exact ⟨fun role _ => rfl, Or.inl rfl⟩
  · rw [run_reconcileProfile_skips hskips]
    cases strict with
    | true => exact ⟨fun role _ => rfl, Or.inl rfl⟩
    | false => exact ⟨fun role _ => rfl, Or.inl rfl⟩
  · rw [herror]
    exact ⟨fun role _ => rfl, Or.inl rfl⟩

/-- What a profile returns: its drift, which is gone when it was to be applied, or the reason it was
skipped for. -/
inductive Returned (server : GrantsServer) (strict apply : Bool) (profile : Profile)
    (before : Finset PyStr) (drift : ProfileDrift) (after : Finset PyStr) : Prop where
  | compared (tables : Finset PyStr) (ready : Ready server profile tables)
      (drift_eq : drift = driftOf tables before)
      (after_eq : after = if apply then tables else before)
  | skipped (failure : EnvFailure) (skips : Skips server profile failure)
      (lenient : strict = false) (drift_eq : drift = { skippedReason := failure.reason })
      (after_eq : after = before)

theorem returned_of_run {profile : Profile} (hexact : server.unquoted profile.role = profile.role)
    {strict apply : Bool} {s t : GrantsState} {drift : ProfileDrift}
    (h : (reconcileProfile server strict apply profile).run s = .ok drift t) :
    Returned server strict apply profile (s.grants profile.role) drift
      (t.grants profile.role) := by
  rcases reconcileProfile_cases server profile with ⟨tables, hready⟩ | ⟨failure, hskips⟩ | ⟨e, herror⟩
  · rw [run_reconcileProfile_ready hready] at h
    by_cases happly : (apply && (driftOf tables (s.grants profile.role)).changed) = true
    · rw [if_pos happly] at h
      cases hrun : (applyDrift server profile.role
          (driftOf tables (s.grants profile.role))).run s with
      | error e t' => simp [hrun] at h
      | ok u t' =>
        simp only [hrun, EStateM.Result.ok.injEq] at h
        obtain ⟨rfl, rfl⟩ := h
        have hgrants := grants_of_run_applyDrift hexact hrun
        refine .compared tables hready rfl ?_
        rw [hgrants, Function.update_self, if_pos (Bool.and_eq_true_iff.mp happly).1]
    · rw [if_neg happly] at h
      obtain ⟨rfl, rfl⟩ := EStateM.Result.ok.inj h
      refine .compared tables hready rfl ?_
      cases apply with
      | false => rfl
      | true =>
        by_contra hne
        exact happly ((changed_driftOf_iff tables _).mpr hne)
  · rw [run_reconcileProfile_skips hskips] at h
    cases strict with
    | true => simp at h
    | false =>
      obtain ⟨rfl, rfl⟩ := EStateM.Result.ok.inj h
      exact .skipped failure hskips rfl rfl rfl
  · rw [herror] at h
    exact absurd h (by simp)

/-- A profile that is ready is compared without a statement when nothing is to be applied, or there
is no drift. -/
theorem run_reconcileProfile_quiet {profile : Profile} {tables : Finset PyStr}
    (hready : Ready server profile tables) (strict apply : Bool) {s : GrantsState}
    (hquiet : apply = true → s.grants profile.role = tables) :
    (reconcileProfile server strict apply profile).run s =
      .ok (driftOf tables (s.grants profile.role)) s := by
  rw [run_reconcileProfile_ready hready, if_neg]
  rw [Bool.and_eq_true]
  rintro ⟨happly, hchanged⟩
  exact (changed_driftOf_iff tables _).mp hchanged (hquiet happly)

theorem local_reconcileProfile (hexact : ∀ p ∈ profiles, server.unquoted p.role = p.role)
    (strict apply : Bool) :
    Local GrantsState.grants Profile.role (reconcileProfile server strict apply) profiles :=
  fun p hp s role hrole => (grants_reconcileProfile (hexact p hp) strict apply s).1 role hrole

/-- The loop over the profiles decides what `reconcile_grants` does to the state. -/
theorem run_reconcileGrants (strict apply : Bool) (s : GrantsState) :
    (reconcileGrants server profiles strict apply).run s =
      match verifyDefaultAlias server with
      | .error e => .error e s
      | .ok _ =>
        match (profiles.mapM (reconcileProfile server strict apply)).run s with
        | .ok drifts t => .ok ⟨(profiles.map Profile.name).zip drifts⟩ t
        | .error e t => .error e t := by
  unfold reconcileGrants
  cases verifyDefaultAlias server with
  | error e => rfl
  | ok u =>
    rw [EStateM.run_bind, run_call_ok]
    simp only [EStateM.run_bind]
    cases (profiles.mapM (reconcileProfile server strict apply)).run s <;> rfl

/-- A run of the reconciler ends as its loop over the profiles does, unless the alias is wrong. -/
theorem finalState_reconcileGrants (server : GrantsServer) (profiles : List Profile)
    (strict apply : Bool) (s : GrantsState) :
    finalState ((reconcileGrants server profiles strict apply).run s) = s ∨
      finalState ((reconcileGrants server profiles strict apply).run s) =
        finalState ((profiles.mapM (reconcileProfile server strict apply)).run s) := by
  rw [run_reconcileGrants]
  cases verifyDefaultAlias server with
  | error e => exact Or.inl rfl
  | ok u =>
    right
    cases (profiles.mapM (reconcileProfile server strict apply)).run s <;> rfl

/-- A run that returns has an entry for each profile. -/
theorem returned_of_reconcileGrants (hroles : (profiles.map Profile.role).Nodup)
    (hexact : ∀ p ∈ profiles, server.unquoted p.role = p.role) {strict apply : Bool}
    {s t : GrantsState} {diff : DriftDiff}
    (h : (reconcileGrants server profiles strict apply).run s = .ok diff t) :
    verifyDefaultAlias server = .ok () ∧ ∃ drifts,
      diff = ⟨(profiles.map Profile.name).zip drifts⟩ ∧
        List.Forall₂ (fun p drift => Returned server strict apply p (s.grants p.role) drift
          (t.grants p.role)) profiles drifts := by
  rw [run_reconcileGrants] at h
  cases halias : verifyDefaultAlias server with
  | error e => simp [halias] at h
  | ok u =>
    refine ⟨rfl, ?_⟩
    simp only [halias] at h
    cases hruns : (profiles.mapM (reconcileProfile server strict apply)).run s with
    | error e t' => simp [hruns] at h
    | ok drifts t' =>
      simp only [hruns, EStateM.Result.ok.injEq] at h
      obtain ⟨rfl, rfl⟩ := h
      refine ⟨drifts, rfl, ?_⟩
      exact forall₂_of_mapM (local_reconcileProfile hexact strict apply)
        (P := fun p before drift after => Returned server strict apply p before drift after) hroles
        (fun p hp _ _ _ hrun => returned_of_run (hexact p hp) hrun) hruns

end Profiles

/-! ## What is sent -/

/-- The statement takes no table from a profile that declares it. -/
def SparesDeclared (server : GrantsServer) (profiles : List Profile) (statement : GrantStatement) :
    Prop :=
  ∀ table, ∀ p ∈ profiles, statement = .revoke table p.role →
    ∀ tables, declared server p = .ok tables → table ∉ tables

/-- The statements sent in between all satisfy `P`. -/
def Sends (P : GrantStatement → Prop) (s t : GrantsState) : Prop :=
  ∃ new, t.sent = s.sent ++ new ∧ ∀ statement ∈ new, P statement

section Sends

variable {P : GrantStatement → Prop} {server : GrantsServer}

theorem Sends.refl (s : GrantsState) : Sends P s s := ⟨[], by simp, by simp⟩

theorem Sends.trans (s t u : GrantsState) (h : Sends P s t) (h' : Sends P t u) : Sends P s u := by
  obtain ⟨new, hsent, hnew⟩ := h
  obtain ⟨new', hsent', hnew'⟩ := h'
  refine ⟨new ++ new', by rw [hsent', hsent, List.append_assoc], fun statement hmem => ?_⟩
  rcases List.mem_append.mp hmem with hmem | hmem
  · exact hnew statement hmem
  · exact hnew' statement hmem

theorem sends_execute {statement : GrantStatement} (h : P statement) :
    Keeps (Sends P) (execute server statement) := by
  unfold execute
  refine .bind Sends.trans (.modify fun s => ⟨[statement], rfl, by simpa using h⟩) fun _ => ?_
  refine .bind Sends.trans (.call Sends.refl _) fun _ => ?_
  exact .modify fun s => Sends.refl s

theorem sends_applyDrift {role : PyStr} {drift : ProfileDrift}
    (hgrant : ∀ table ∈ drift.granted, P (.grant table role))
    (hrevoke : ∀ table ∈ drift.revoked, P (.revoke table role)) :
    Keeps (Sends P) (applyDrift server role drift) := by
  unfold applyDrift atomic
  have hrestore : ∀ before after : GrantsState, Sends P before after →
      Sends P before { after with grants := before.grants } := fun before after h => h
  refine .transaction hrestore (.bind Sends.trans ?_ fun _ => ?_) _
  · exact .forM Sends.refl Sends.trans fun table htable => sends_execute (hgrant table htable)
  · exact .forM Sends.refl Sends.trans fun table htable => sends_execute (hrevoke table htable)

/-- The statements of a profile spare what the profiles declare: only its own role is touched, and
only what it does not declare is revoked. -/
theorem sends_reconcileProfile [UnicodeDatabase] {profiles : List Profile}
    (hroles : (profiles.map Profile.role).Nodup) {p : Profile} (hp : p ∈ profiles)
    (strict apply : Bool) :
    Keeps (Sends (SparesDeclared server profiles)) (reconcileProfile server strict apply p) := by
  intro s
  rcases reconcileProfile_cases server p with ⟨tables, hready⟩ | ⟨failure, hskips⟩ | ⟨e, herror⟩
  · rw [run_reconcileProfile_ready hready]
    by_cases happly : (apply && (driftOf tables (s.grants p.role)).changed) = true
    · rw [if_pos happly]
      have hsends : Keeps (Sends (SparesDeclared server profiles))
          (applyDrift server p.role (driftOf tables (s.grants p.role))) := by
        apply sends_applyDrift
        · intro table _ other q _ hstatement
          exact absurd hstatement (by simp)
        · intro table htable other q hq hstatement tables' hdeclared
          obtain ⟨rfl, hrole⟩ := GrantStatement.revoke.inj hstatement
          obtain rfl : p = q := List.inj_on_of_nodup_map hroles hp hq hrole
          obtain rfl := Except.ok.inj (hready.declared.symm.trans hdeclared)
          exact (Finset.mem_sdiff.mp (mem_sorted.mp htable)).2
      have hsent := hsends s
      cases hrun : (applyDrift server p.role (driftOf tables (s.grants p.role))).run s with
      | ok u t =>
        rw [hrun] at hsent
        exact hsent
      | error e t =>
        rw [hrun] at hsent
        exact hsent
    · rw [if_neg happly]
      exact Sends.refl s
  · rw [run_reconcileProfile_skips hskips]
    cases strict with
    | true => exact Sends.refl s
    | false => exact Sends.refl s
  · rw [herror]
    exact Sends.refl s

end Sends

/-! ## Convergence -/

section Convergence

variable [UnicodeDatabase] (server : GrantsServer) (profiles : List Profile)

/-- What a run of `reconcile_grants` does, whatever fails in it. -/
structure Converges (strict apply : Bool) (s : GrantsState) : Prop where
  /-- Each profile's role keeps its grants or ends with exactly the declared tables. -/
  perRole : ∀ p ∈ profiles, KeepsOrDeclares server p (s.grants p.role)
    ((finalState ((reconcileGrants server profiles strict apply).run s)).grants p.role)
  /-- The other roles keep their grants. -/
  otherRoles : ∀ role, role ∉ profiles.map Profile.role →
    (finalState ((reconcileGrants server profiles strict apply).run s)).grants role = s.grants role
  /-- No statement revokes a table from the role of a profile that declares it. -/
  spares : Sends (SparesDeclared server profiles) s
    (finalState ((reconcileGrants server profiles strict apply).run s))
  /-- A run that returns has compared each profile, or skipped it in the lenient mode. -/
  returned : ∀ diff t, (reconcileGrants server profiles strict apply).run s = .ok diff t →
    List.Forall₂ (fun p entry => entry.1 = p.name ∧
      Returned server strict apply p (s.grants p.role) entry.2 (t.grants p.role))
      profiles diff.perProfile
  /-- After a strict application the roles hold the declared tables, the dry run would have returned
  the same, and another run finds no drift and changes nothing. -/
  applied : strict = true → apply = true →
    ∀ diff t, (reconcileGrants server profiles strict apply).run s = .ok diff t →
      (∀ p ∈ profiles, declared server p = .ok (t.grants p.role)) ∧
        (reconcileGrants server profiles true false).run s = .ok diff s ∧
        ∀ strict' apply', ∃ diff',
          (reconcileGrants server profiles strict' apply').run t = .ok diff' t ∧
            diff'.changed = false

variable {server profiles}

/-- The roles of the profiles, and the other roles, at the end of a run. -/
theorem grants_reconcileGrants (hroles : (profiles.map Profile.role).Nodup)
    (hexact : ∀ p ∈ profiles, server.unquoted p.role = p.role) (strict apply : Bool)
    (s : GrantsState) :
    let final := finalState ((reconcileGrants server profiles strict apply).run s)
    (∀ p ∈ profiles, KeepsOrDeclares server p (s.grants p.role) (final.grants p.role)) ∧
      ∀ role, role ∉ profiles.map Profile.role → final.grants role = s.grants role := by
  have hlocal := local_reconcileProfile hexact strict apply
  have hown : ∀ p ∈ profiles, ∀ s : GrantsState, KeepsOrDeclares server p (s.grants p.role)
      ((finalState ((reconcileProfile server strict apply p).run s)).grants p.role) :=
    fun p hp s => (grants_reconcileProfile (hexact p hp) strict apply s).2
  rcases finalState_reconcileGrants server profiles strict apply s with
    hstay | hloop
  · rw [hstay]
    exact ⟨fun p _ => Or.inl rfl, fun role _ => rfl⟩
  · rw [hloop]
    constructor
    · exact each_of_mapM hlocal (fun p g => Or.inl rfl) hroles hown s
    · exact fun role hrole => view_mapM hlocal hrole s

theorem sends_reconcileGrants (hroles : (profiles.map Profile.role).Nodup) (strict apply : Bool)
    (s : GrantsState) : Sends (SparesDeclared server profiles) s
      (finalState ((reconcileGrants server profiles strict apply).run s)) := by
  have hloop : Keeps (Sends (SparesDeclared server profiles))
      (profiles.mapM (reconcileProfile server strict apply)) :=
    .mapM Sends.refl Sends.trans fun p hp => sends_reconcileProfile hroles hp strict apply
  rcases finalState_reconcileGrants server profiles strict apply s with
    hstay | hsame
  · rw [hstay]
    exact Sends.refl s
  · rw [hsame]
    exact hloop s

/-- Profiles that are ready, and hold what they declare when it is to be applied, are compared without
a statement. -/
theorem run_reconcileGrants_quiet (halias : verifyDefaultAlias server = .ok ())
    (strict apply : Bool) {s : GrantsState} {drifts : List ProfileDrift}
    (h : List.Forall₂ (fun p drift => ∃ tables, Ready server p tables ∧
      drift = driftOf tables (s.grants p.role) ∧ (apply = true → s.grants p.role = tables))
      profiles drifts) :
    (reconcileGrants server profiles strict apply).run s =
      .ok ⟨(profiles.map Profile.name).zip drifts⟩ s := by
  have hruns : (profiles.mapM (reconcileProfile server strict apply)).run s = .ok drifts s := by
    apply run_mapM_of_stays
    refine h.imp ?_
    rintro p drift ⟨tables, hready, rfl, hquiet⟩
    exact run_reconcileProfile_quiet hready strict apply hquiet
  rw [run_reconcileGrants, halias]
  simp only [hruns]

/-- A database that takes every statement lets a reconciliation of ready profiles return. -/
theorem reconcileGrants_returns (halias : verifyDefaultAlias server = .ok ())
    (hobeys : Obeys server) (hready : ∀ p ∈ profiles, ∃ tables, Ready server p tables)
    (strict apply : Bool) (s : GrantsState) :
    ∃ diff t, (reconcileGrants server profiles strict apply).run s = .ok diff t := by
  have heach : ∀ p ∈ profiles, ∀ s, ∃ drift t,
      (reconcileProfile server strict apply p).run s = .ok drift t := by
    intro p hp s
    obtain ⟨tables, htables⟩ := hready p hp
    exact reconcileProfile_returns htables hobeys strict apply s
  obtain ⟨drifts, t, hruns⟩ := mapM_returns heach s
  rw [run_reconcileGrants, halias]
  simp only [hruns]
  exact ⟨_, t, rfl⟩

omit [UnicodeDatabase] in
/-- The drifts under the names of their profiles. -/
theorem forall₂_named {R : Profile → ProfileDrift → Prop} {drifts : List ProfileDrift}
    (h : List.Forall₂ R profiles drifts) :
    List.Forall₂ (fun p entry => entry.1 = p.name ∧ R p entry.2) profiles
      ((profiles.map Profile.name).zip drifts) := by
  induction h with
  | nil => exact .nil
  | cons hp _ ih => exact .cons ⟨rfl, hp⟩ ih

/-- Whatever fails, every profile's role keeps its grants or ends with exactly the declared tables,
and the others keep theirs; a strict application that returns has made them all exact, would have
reported the same as a dry run, and leaves nothing to do. -/
theorem reconcile_converges (hroles : (profiles.map Profile.role).Nodup)
    (hexact : ∀ p ∈ profiles, server.unquoted p.role = p.role) (strict apply : Bool)
    (s : GrantsState) : Converges server profiles strict apply s := by
  obtain ⟨hown, hothers⟩ := grants_reconcileGrants hroles hexact strict apply s
  constructor
  · exact hown
  · exact hothers
  · exact sends_reconcileGrants hroles strict apply s
  · intro diff t hrun
    obtain ⟨-, drifts, rfl, hreturned⟩ := returned_of_reconcileGrants hroles hexact hrun
    exact forall₂_named hreturned
  · rintro rfl rfl diff t hrun
    obtain ⟨halias, drifts, rfl, hreturned⟩ := returned_of_reconcileGrants hroles hexact hrun
    have hcompared : List.Forall₂ (fun p drift => ∃ tables, Ready server p tables ∧
        drift = driftOf tables (s.grants p.role) ∧ t.grants p.role = tables) profiles drifts := by
      refine hreturned.imp ?_
      rintro p drift (⟨tables, hready, hdrift, hafter⟩ | ⟨failure, -, hlenient, -, -⟩)
      · exact ⟨tables, hready, hdrift, hafter⟩
      · exact absurd hlenient (by decide)
    have hready : ∀ p ∈ profiles, Ready server p (t.grants p.role) := by
      intro p hp
      obtain ⟨drift, -, tables, hready, -, hafter⟩ :=
        Raising.exists_of_forall₂_left hcompared hp
      rw [hafter]
      exact hready
    refine ⟨fun p hp => (hready p hp).declared, ?_, fun strict' apply' => ?_⟩
    · apply run_reconcileGrants_quiet halias
      refine hcompared.imp ?_
      rintro p drift ⟨tables, hready, hdrift, -⟩
      exact ⟨tables, hready, hdrift, fun happly => absurd happly (by decide)⟩
    · have hagain : List.Forall₂ (fun p drift => ∃ tables, Ready server p tables ∧
          drift = driftOf tables (t.grants p.role) ∧ (apply' = true → t.grants p.role = tables))
          profiles (profiles.map fun p => driftOf (t.grants p.role) (t.grants p.role)) := by
        rw [List.forall₂_map_right_iff, List.forall₂_same]
        exact fun p hp => ⟨_, hready p hp, rfl, fun _ => rfl⟩
      refine ⟨_, run_reconcileGrants_quiet halias strict' apply' hagain, ?_⟩
      unfold DriftDiff.changed
      rw [List.any_eq_false]
      intro entry hentry
      obtain ⟨p, -, hp⟩ := List.mem_map.mp (List.of_mem_zip hentry).2
      rw [← hp, changed_driftOf_iff]
      exact fun hne => hne rfl

end Convergence

/-! ## An example -/

/-- A database with two tables and no view, in which every role exists. -/
def exampleGrantsServer : GrantsServer where
  aliasName := lit "default"
  getModel entry :=
    if entry = lit "notes.Note" then .ok ⟨lit "notes_note", true, [lit "id"]⟩
    else if entry = lit "billing.Invoice" then .ok ⟨lit "billing_invoice", true, [lit "id"]⟩
    else .error (.lookupError entry)
  roleExists _ := .ok true
  hasRole _ := .ok true
  viewColumns _ _ := .ok []
  readGrants _ := .ok ()
  answer _ := .ok ()
  commit _ := .ok ()
  unquoted role := role

/-- A profile over the notes. -/
def notesProfile : Profile :=
  ⟨lit "default", lit "mcp_readonly_role", lit "use_mcp_session", lit "mcp_sql_users",
    [lit "notes.Note"], none⟩

/-- A profile over the notes and the invoices. -/
def billingProfile : Profile :=
  ⟨lit "billing", lit "mcp_billing_role", lit "use_mcp_billing", lit "mcp_sql_billing",
    [lit "notes.Note", lit "billing.Invoice"], none⟩

/-- The role of the first profile holds a table too many, that of the second one too few. -/
def driftedGrants : GrantsState where
  grants role :=
    if role = lit "mcp_readonly_role" then {lit "notes_note", lit "billing_invoice"}
    else if role = lit "mcp_billing_role" then {lit "notes_note"}
    else ∅

theorem obeys_exampleGrantsServer : Obeys exampleGrantsServer where
  answer _ := rfl
  commit _ := rfl

theorem ready_exampleProfiles : letI := asciiDatabase
    ∀ p ∈ [notesProfile, billingProfile], ∃ tables, Ready exampleGrantsServer p tables := by
  let _ := asciiDatabase
  intro p hp
  rcases List.mem_cons.mp hp with rfl | hp
  · exact ⟨_, by decide, rfl, rfl, rfl, rfl, rfl⟩
  · obtain rfl := List.mem_singleton.mp hp
    exact ⟨_, by decide, rfl, rfl, rfl, rfl, rfl⟩

/-- The shared table stays with both roles. -/
theorem reconcile_converges_shared : letI := asciiDatabase
    ∃ diff t, (reconcileGrants exampleGrantsServer [notesProfile, billingProfile] true true).run
        driftedGrants = .ok diff t ∧
      t.grants (lit "mcp_readonly_role") = {lit "notes_note"} ∧
      t.grants (lit "mcp_billing_role") = {lit "notes_note", lit "billing_invoice"} := by
  let _ := asciiDatabase
  have halias : verifyDefaultAlias exampleGrantsServer = .ok () := rfl
  have hroles : ([notesProfile, billingProfile].map Profile.role).Nodup := by decide
  have hexact : ∀ p ∈ [notesProfile, billingProfile],
      exampleGrantsServer.unquoted p.role = p.role := fun _ _ => rfl
  obtain ⟨diff, t, hrun⟩ := reconcileGrants_returns halias obeys_exampleGrantsServer
    ready_exampleProfiles true true driftedGrants
  obtain ⟨hdeclared, -⟩ := (reconcile_converges hroles hexact true true driftedGrants).applied rfl
    rfl diff t hrun
  refine ⟨diff, t, hrun, ?_, ?_⟩
  · exact (Except.ok.inj (hdeclared notesProfile (by simp))).symm
  · exact (Except.ok.inj (hdeclared billingProfile (by simp))).symm

end McpSql.Grants
