import McpSql.Postgres.Roles
import McpSql.Profiles.RoleNames

/-!
# Setting up the roles

`mcp_sql_role_setup` prints a script that a database administrator runs: it creates the role of every
profile, sets the guards of a session as its defaults, and makes the connecting role a member of it.
Run on any cluster, the script adds just this, leaves everything else alone, and changes nothing when
it is run again, unless the name of a role is one that only Postgres gives: the startup check accepts
such a name, and the script stops at it.
-/

namespace McpSql

open Python PyStr Postgres Raising

/-! ## The script -/

/-- `_HEADER`. -/
def setupHeader : PyStr :=
  lit "-- Generated by `manage.py mcp_sql_role_setup --emit-sql` from PROFILES.\n" ++
    lit "-- One NOLOGIN role per profile + its session GUC defaults + the membership\n" ++
    lit "-- GRANT to the connecting app role. Mirrors mcp_sql/sql/role_setup.sql;\n" ++
    lit "-- review before running. Apply as a superuser, passing the connecting role\n" ++
    lit "-- via -v app_role=<role>. Idempotent: re-running must not fail.\n"

/-- `ALTER ROLE … SET`, for one guard. -/
def gucLine (role : PyStr) (guc : PyStr × PyStr) : PyStr :=
  lit "ALTER ROLE " ++ role ++ lit " SET " ++ guc.1 ++ lit " = '" ++ guc.2 ++ lit "';"

/-- `_role_block`. -/
def roleBlock (role : PyStr) : PyStr :=
  lit "DO $$\n" ++ lit "BEGIN\n" ++ (lit "    CREATE ROLE " ++ role ++ lit " NOLOGIN;\n") ++
    lit "EXCEPTION\n" ++ lit "    WHEN duplicate_object THEN\n" ++ lit "        NULL;\n" ++
    lit "END\n" ++ lit "$$;\n\n" ++
    ((lit "\n").intercalate (expectedSessionGucs.map (gucLine role)) ++ lit "\n")

/-- `_membership_block`. -/
def membershipBlock (roles : List PyStr) : PyStr :=
  lit "BEGIN;\n\n" ++ lit "SET LOCAL mcp_sql.app_role = :'app_role';\n\n" ++ lit "DO $$\n" ++
    lit "DECLARE\n" ++ lit "    target_role text := current_setting('mcp_sql.app_role');\n" ++
    lit "BEGIN\n" ++
    ((lit "\n").intercalate (roles.map fun role =>
      lit "    EXECUTE format('GRANT " ++ role ++ lit " TO %I', target_role);") ++ lit "\n") ++
    lit "EXCEPTION\n" ++ lit "    WHEN undefined_object THEN\n" ++
    lit "        RAISE NOTICE 'app role \"%\" does not yet exist in this cluster; " ++
    lit "membership not granted. Create the role, then re-run with " ++
    lit "-v app_role=<role>.', target_role;\n" ++ lit "END\n" ++ lit "$$;\n\n" ++ lit "COMMIT;\n"

/-- The distinct roles, in first-seen profile order. -/
def distinctRoles (profiles : List Profile) : List PyStr :=
  profiles.foldl (fun roles profile =>
    if profile.role ∉ roles then roles ++ [profile.role] else roles) []

/-- `CommandError`. -/
def commandError (text : PyStr) : PyExc := .otherException (lit "CommandError") (some text)

/-- What `mcp_sql_role_setup` prints. -/
def handleRoleSetup (emitSql : Bool) (profiles : List Profile) : Except PyExc PyStr :=
  if emitSql = false then
    .error (commandError (lit "Pass --emit-sql to print the role bootstrap SQL " ++
      lit "(this command never applies it itself)."))
  else
    let roles := distinctRoles profiles
    .ok ((lit "\n").intercalate (setupHeader :: roles.map roleBlock ++ [membershipBlock roles]))

/-! ## What the script does -/

/-- A statement of the script. -/
inductive SetupStatement where
  | createRole (role : PyStr)
  | alterRole (role : PyStr) (guc : PyStr × PyStr)
  | grantMembership (roles : List PyStr)
  deriving DecidableEq, Repr

/-- The text of a statement, with the line breaks around it. -/
def SetupStatement.text : SetupStatement → PyStr
  | createRole role =>
    lit "\nDO $$\nBEGIN\n    CREATE ROLE " ++ role ++
      lit " NOLOGIN;\nEXCEPTION\n    WHEN duplicate_object THEN\n        NULL;\nEND\n$$;\n\n"
  | alterRole role guc => gucLine role guc ++ lit "\n"
  | grantMembership roles => lit "\n" ++ membershipBlock roles

/-- The statements about one role. -/
def roleStatements (role : PyStr) : List SetupStatement :=
  .createRole role :: expectedSessionGucs.map (.alterRole role)

/-- The statements of the script. -/
def setupStatements (roles : List PyStr) : List SetupStatement :=
  roles.flatMap roleStatements ++ [.grantMembership roles]

section Run

variable {rules : NameRules} (server : RoleServer rules) (appRole : PyStr)

/-- What a statement does; `psql` replaces the variable by the name of the connecting role. -/
def SetupStatement.run (c : Cluster) : SetupStatement → Except RoleError Cluster
  | createRole role => server.block .duplicateObject c [.create role]
  | alterRole role guc => server.exec c (.alterSet role guc.1 guc.2)
  | grantMembership roles =>
    server.block .undefinedObject c (roles.map fun role => .grant role appRole)

/-- What statements do, up to the first that raises: `psql` runs with `ON_ERROR_STOP=1`. -/
def runSetup : Cluster → List SetupStatement → Except RoleError Cluster
  | c, [] => .ok c
  | c, statement :: rest => do
    let c' ← statement.run server appRole c
    runSetup c' rest

end Run

/-- What the script is for: the roles are there with the guards as their defaults, the connecting role
is a member of each if it exists, and nothing else has changed. -/
structure SetUp (roles : List PyStr) (appRole : PyStr) (before after : Cluster) : Prop where
  exist : after.roles = before.roles ∪ roles.toFinset
  guards : ∀ role ∈ roles, ∀ guc ∈ expectedSessionGucs,
    after.setting role guc.1 = some guc.2
  settings : ∀ role name, role ∉ roles ∨ name ∉ expectedSessionGucs.map Prod.fst →
    after.setting role name = before.setting role name
  members : ∀ role user, user ∈ after.members role ↔ user ∈ before.members role ∨
    (appRole ∈ after.roles ∧ role ∈ roles ∧ user = appRole)

/-! ## The text -/

theorem mem_distinctRoles {profiles : List Profile} {role : PyStr} :
    role ∈ distinctRoles profiles ↔ ∃ p ∈ profiles, p.role = role := by
  have hfold : ∀ seen : List PyStr, role ∈ profiles.foldl (fun roles profile =>
      if profile.role ∉ roles then roles ++ [profile.role] else roles) seen ↔
      role ∈ seen ∨ ∃ p ∈ profiles, p.role = role := by
    induction profiles with
    | nil => simp
    | cons profile rest ih =>
      intro seen
      rw [List.foldl_cons, ih]
      by_cases hseen : profile.role ∈ seen
      · simp only [hseen, not_true_eq_false, if_false, List.mem_cons, exists_eq_or_imp]
        constructor
        · tauto
        · rintro (h | rfl | h)
          · exact Or.inl h
          · exact Or.inl hseen
          · exact Or.inr h
      · simp only [hseen, not_false_eq_true, if_true, List.mem_append, List.mem_cons,
          exists_eq_or_imp]
        tauto
  rw [distinctRoles, hfold, or_iff_right List.not_mem_nil]

/-- Texts joined by a separator: the first, then the separator before each other. -/
theorem intercalate_cons (sep text : PyStr) (texts : List PyStr) :
    sep.intercalate (text :: texts) = text ++ texts.flatMap (sep ++ ·) := by
  induction texts generalizing text with
  | nil => simp [List.intercalate]
  | cons next rest ih =>
    have hstep : sep.intercalate (text :: next :: rest) =
        text ++ sep ++ sep.intercalate (next :: rest) := by
      simp [List.intercalate]
    rw [hstep, ih, List.flatMap_cons]
    simp only [List.append_assoc]

/-- The block of a role spells its statements. -/
theorem roleBlock_eq (role : PyStr) :
    lit "\n" ++ roleBlock role = (roleStatements role).flatMap SetupStatement.text := by
  have hlines : (lit "\n").intercalate (expectedSessionGucs.map (gucLine role)) ++ lit "\n" =
      (expectedSessionGucs.map (SetupStatement.alterRole role)).flatMap SetupStatement.text := by
    simp [expectedSessionGucs, SetupStatement.text]
  unfold roleBlock roleStatements
  rw [hlines, List.flatMap_cons]
  simp only [SetupStatement.text, ← List.append_assoc]
  congr 1
  simp only [List.append_assoc]
  rfl

/-- The script spells its statements. -/
theorem handleRoleSetup_eq (profiles : List Profile) : handleRoleSetup true profiles =
    .ok (setupHeader ++ (setupStatements (distinctRoles profiles)).flatMap SetupStatement.text) := by
  have hblocks : ∀ roles : List PyStr, (roles.map roleBlock).flatMap (lit "\n" ++ ·) =
      (roles.flatMap roleStatements).flatMap SetupStatement.text := by
    intro roles
    rw [List.flatMap_map, List.flatMap_assoc]
    exact congrArg (roles.flatMap ·) (funext roleBlock_eq)
  unfold handleRoleSetup setupStatements
  simp only [Bool.true_eq_false, if_false, List.cons_append, intercalate_cons, List.flatMap_append,
    hblocks]
  simp [SetupStatement.text]

/-! ## The effect -/

section Effect

variable {rules : NameRules} {server : RoleServer rules} {appRole : PyStr}

theorem runSetup_append {before rest : List SetupStatement} {c c' : Cluster}
    (h : runSetup server appRole c before = .ok c') :
    runSetup server appRole c (before ++ rest) = runSetup server appRole c' rest := by
  induction before generalizing c with
  | nil =>
    obtain rfl := Except.ok.inj h
    rfl
  | cons statement others ih =>
    rw [runSetup] at h
    obtain ⟨d, hstatement, hothers⟩ := bind_eq_ok.mp h
    rw [List.cons_append, runSetup, hstatement]
    exact ih hothers

/-- A server that takes the guards. -/
def TakesGuards (server : RoleServer rules) : Prop :=
  ∀ guc ∈ expectedSessionGucs, server.takes guc.1 guc.2

/-- The guards are set one after another. -/
theorem runSetup_alterRoles {role : PyStr} (h : SettableRole rules role) {c : Cluster}
    (hmem : role ∈ c.roles) {gucs : List (PyStr × PyStr)}
    (htakes : ∀ guc ∈ gucs, server.takes guc.1 guc.2) :
    runSetup server appRole c (gucs.map (.alterRole role)) = .ok (c.setDefaults role gucs) := by
  rw [← execAll_alterSet c role h hmem htakes]
  clear hmem htakes
  induction gucs generalizing c with
  | nil => rfl
  | cons guc rest ih =>
    rw [List.map_cons, List.map_cons, runSetup, RoleServer.execAll]
    show (server.exec c (.alterSet role guc.1 guc.2) >>= _) = _
    cases server.exec c (.alterSet role guc.1 guc.2) with
    | error e => rfl
    | ok d => exact ih

variable (appRole)

/-- Some roles are there with the guards as their defaults. -/
structure Guarded (roles : List PyStr) (before after : Cluster) : Prop where
  exist : after.roles = before.roles ∪ roles.toFinset
  guards : ∀ role ∈ roles, ∀ guc ∈ expectedSessionGucs, after.setting role guc.1 = some guc.2
  settings : ∀ role name, role ∉ roles ∨ name ∉ expectedSessionGucs.map Prod.fst →
    after.setting role name = before.setting role name
  members : after.members = before.members

/-- The statements about one role put it there with the guards. -/
theorem guarded_of_roleStatements (htakes : TakesGuards server) {role : PyStr}
    (h : SettableRole rules role) (c : Cluster) :
    ∃ d, runSetup server appRole c (roleStatements role) = .ok d ∧ Guarded [role] c d := by
  let created : Cluster := { c with roles := insert role c.roles }
  have hcreated : role ∈ created.roles := Finset.mem_insert_self _ _
  obtain ⟨hroles, hmembers⟩ := frame_setDefaults created role expectedSessionGucs
  have hnames : (expectedSessionGucs.map Prod.fst).Nodup := by decide
  refine ⟨created.setDefaults role expectedSessionGucs, ?_, ?_, ?_, ?_, hmembers⟩
  · rw [roleStatements, runSetup]
    show (server.block .duplicateObject c [.create role] >>= _) = _
    rw [block_create h]
    exact runSetup_alterRoles h hcreated htakes
  · rw [hroles]
    ext other
    simp [created]
  · intro other hother guc hguc
    rw [List.mem_singleton.mp hother]
    exact setting_setDefaults_of_mem created role hnames hguc
  · intro other name hne
    rw [List.mem_singleton] at hne
    exact setting_setDefaults_of_ne created role hne

/-- The statements about several roles put them all there with the guards. -/
theorem guarded_of_flatMap (htakes : TakesGuards server) {roles : List PyStr}
    (h : ∀ role ∈ roles, SettableRole rules role) (c : Cluster) :
    ∃ d, runSetup server appRole c (roles.flatMap roleStatements) = .ok d ∧ Guarded roles c d := by
  induction roles generalizing c with
  | nil => exact ⟨c, rfl, by simp, by simp, fun _ _ _ => rfl, rfl⟩
  | cons role rest ih =>
    obtain ⟨d, hfirst, hd⟩ := guarded_of_roleStatements appRole htakes (h role List.mem_cons_self) c
    obtain ⟨e, hrest, he⟩ := ih (fun r hr => h r (List.mem_cons_of_mem _ hr)) d
    refine ⟨e, ?_, ?_, ?_, ?_, he.members.trans hd.members⟩
    · rw [List.flatMap_cons, runSetup_append hfirst]
      exact hrest
    · rw [he.exist, hd.exist]
      ext other
      simp
    · intro other hother guc hguc
      by_cases hin : other ∈ rest
      · exact he.guards other hin guc hguc
      · rw [he.settings other guc.1 (Or.inl hin)]
        rcases List.mem_cons.mp hother with rfl | hmem
        · exact hd.guards other (List.mem_singleton_self _) guc hguc
        · exact absurd hmem hin
    · intro other name hne
      have hrest : other ∉ rest ∨ name ∉ expectedSessionGucs.map Prod.fst :=
        hne.imp_left fun hnot hmem => hnot (List.mem_cons_of_mem _ hmem)
      have hone : other ∉ [role] ∨ name ∉ expectedSessionGucs.map Prod.fst :=
        hne.imp_left fun hnot hmem => hnot (List.mem_singleton.mp hmem ▸ List.mem_cons_self)
      exact (he.settings other name hrest).trans (hd.settings other name hone)

/-- The script stops at the first role whose name is reserved. -/
theorem runSetup_reserved (htakes : TakesGuards server) {roles : List PyStr}
    (h : ∀ role ∈ roles, rules.Denotes role role) (rest : List SetupStatement) (c : Cluster)
    (hreserved : ∃ role ∈ roles, isReserved role = true) :
    runSetup server appRole c (roles.flatMap roleStatements ++ rest) = .error .reservedName := by
  induction roles generalizing c with
  | nil => simp at hreserved
  | cons role others ih =>
    rw [List.flatMap_cons, List.append_assoc]
    have hrole := h role List.mem_cons_self
    cases hfirst : isReserved role with
    | true =>
      rw [roleStatements, List.cons_append, runSetup]
      show (server.block .duplicateObject c [.create role] >>= _) = _
      rw [block_create_reserved hrole hfirst]
      rfl
    | false =>
      obtain ⟨d, hrun, -⟩ := guarded_of_roleStatements appRole htakes ⟨hrole, hfirst⟩ c
      rw [runSetup_append hrun]
      refine ih (fun r hr => h r (List.mem_cons_of_mem _ hr)) d ?_
      obtain ⟨reserved, hmem, hname⟩ := hreserved
      rcases List.mem_cons.mp hmem with rfl | hmem
      · rw [hfirst] at hname
        exact absurd hname Bool.false_ne_true
      · exact ⟨reserved, hmem, hname⟩

/-- The script ends with the roles set up, unless a role of a profile has the rights of the connecting
role. -/
theorem setUp_of_setupStatements (htakes : TakesGuards server) {roles : List PyStr}
    (h : ∀ role ∈ roles, SettableRole rules role) (happ : IsQuotedName appRole) {c : Cluster}
    (hloop : ∀ role ∈ roles, ¬c.IsMember role appRole) :
    ∃ d, runSetup server appRole c (setupStatements roles) = .ok d ∧ SetUp roles appRole c d := by
  obtain ⟨d, hrun, hexist, hguards, hsettings, hmembers⟩ := guarded_of_flatMap appRole htakes h c
  have hroles : ∀ role ∈ roles, role ∈ d.roles := by
    intro role hrole
    rw [hexist]
    simp [hrole]
  have hapart : ∀ role ∈ roles, ¬d.IsMember role appRole := by
    intro role hrole hmember
    apply hloop role hrole
    unfold Cluster.IsMember at hmember ⊢
    rwa [hmembers] at hmember
  refine ⟨if appRole ∈ d.roles then d.joined roles appRole else d, ?_, ?_, ?_, ?_, ?_⟩
  · rw [setupStatements, runSetup_append hrun, runSetup]
    show (server.block .undefinedObject d (roles.map fun role => .grant role appRole) >>= _) = _
    rw [block_grant h hroles happ hapart]
    rfl
  · split_ifs <;> exact hexist
  · split_ifs <;> exact hguards
  · split_ifs <;> exact hsettings
  · intro role user
    by_cases hexists : appRole ∈ d.roles
    · rw [if_pos hexists]
      by_cases hrole : role ∈ roles
      · simp [Cluster.joined, hrole, hexists, hmembers, or_comm]
      · simp [Cluster.joined, hrole, hmembers]
    · rw [if_neg hexists]
      simp [hexists, hmembers]

variable {appRole}

/-! ## Running it again -/

section Again

variable {roles : List PyStr} {c d e : Cluster}

/-- The script gives no one the rights of the connecting role. -/
theorem SetUp.isMember (h : SetUp roles appRole c d) {user : PyStr}
    (hmember : d.IsMember user appRole) : c.IsMember user appRole := by
  induction hmember using Relation.ReflTransGen.head_induction_on with
  | refl => exact .refl
  | @head u r hedge _ ih =>
    rcases (h.members r u).mp hedge with hold | ⟨-, -, rfl⟩
    · exact .head hold ih
    · exact .refl

/-- A connecting role that exists is a member of every role of the script. -/
theorem SetUp.joins (h : SetUp roles appRole c d) (happ : appRole ∈ d.roles) {role : PyStr}
    (hrole : role ∈ roles) : d.IsMember appRole role :=
  .single ((h.members role appRole).mpr (Or.inr ⟨happ, hrole, rfl⟩))

/-- Where the roles are set up, setting them up changes nothing. -/
theorem SetUp.again (h : SetUp roles appRole c d) (h' : SetUp roles appRole d e) : e = d := by
  have hexist : e.roles = d.roles := by
    rw [h'.exist, h.exist, Finset.union_assoc, Finset.union_self]
  apply Cluster.ext hexist
  · funext role name
    by_cases hguarded : role ∈ roles ∧ name ∈ expectedSessionGucs.map Prod.fst
    · obtain ⟨hrole, hname⟩ := hguarded
      obtain ⟨guc, hguc, rfl⟩ := List.mem_map.mp hname
      rw [h'.guards role hrole guc hguc, h.guards role hrole guc hguc]
    · exact h'.settings role name (not_and_or.mp hguarded)
  · funext role
    ext user
    rw [h'.members role user]
    constructor
    · rintro (hold | ⟨happ, hrole, rfl⟩)
      · exact hold
      · rw [hexist] at happ
        exact (h.members role user).mpr (Or.inr ⟨happ, hrole, rfl⟩)
    · exact Or.inl

end Again

/-- The roles of accepted profiles that are plain denote themselves. -/
theorem denotes_distinctRoles [UnicodeDatabase] {importString : PyStr → Except PyExc Unit}
    {profiles : List Profile} (haccepted : validateProfiles importString profiles = .ok ())
    (hplain : ∀ p ∈ profiles, rules.IsPlain p.role) :
    ∀ role ∈ distinctRoles profiles, rules.Denotes role role := by
  intro role hrole
  obtain ⟨p, hp, rfl⟩ := mem_distinctRoles.mp hrole
  refine ⟨?_, unquoted_eq_self_iff.mpr (hplain p hp)⟩
  have hword := (accepted_of_validateProfiles haccepted).identifier p hp
  cases hcase : p.role with
  | nil => simp [hcase, isPgIdentifier] at hword
  | cons c rest =>
    rw [hcase] at hword
    exact hword

/-- On a server that behaves as Postgres documents, for accepted profiles whose roles are plain and
have no rights of the connecting role: unless a role has a reserved name, the printed script, run on
any cluster, sets the roles up and changes nothing else; run again it changes nothing, and a
connecting role that exists can take the role of every profile.  With a reserved name it stops. -/
theorem role_setup [UnicodeDatabase] (rules : NameRules) (server : RoleServer rules)
    (importString : PyStr → Except PyExc Unit) (profiles : List Profile) (appRole : PyStr)
    (c : Cluster) (htakes : TakesGuards server)
    (haccepted : validateProfiles importString profiles = .ok ())
    (hplain : ∀ p ∈ profiles, rules.IsPlain p.role) (happ : IsQuotedName appRole)
    (hloop : ∀ p ∈ profiles, ¬c.IsMember p.role appRole) :
    let statements := setupStatements (distinctRoles profiles)
    handleRoleSetup true profiles =
        .ok (setupHeader ++ statements.flatMap SetupStatement.text) ∧
      ((∃ p ∈ profiles, isReserved p.role = true) →
        runSetup server appRole c statements = .error .reservedName) ∧
      ((∀ p ∈ profiles, isReserved p.role = false) →
        ∃ d, runSetup server appRole c statements = .ok d ∧
          SetUp (distinctRoles profiles) appRole c d ∧
          runSetup server appRole d statements = .ok d ∧
          ∀ p ∈ profiles, p.role ∈ d.roles ∧
            (appRole ∈ c.roles → d.IsMember appRole p.role)) := by
  have hdenotes := denotes_distinctRoles haccepted hplain
  refine ⟨handleRoleSetup_eq profiles, ?_, ?_⟩
  · rintro ⟨p, hp, hreserved⟩
    exact runSetup_reserved appRole htakes hdenotes _ c
      ⟨p.role, mem_distinctRoles.mpr ⟨p, hp, rfl⟩, hreserved⟩
  intro hfree
  have hsettable : ∀ role ∈ distinctRoles profiles, SettableRole rules role := by
    intro role hrole
    obtain ⟨p, hp, rfl⟩ := mem_distinctRoles.mp hrole
    exact ⟨hdenotes _ hrole, hfree p hp⟩
  have hapart : ∀ role ∈ distinctRoles profiles, ¬c.IsMember role appRole := by
    intro role hrole
    obtain ⟨p, hp, rfl⟩ := mem_distinctRoles.mp hrole
    exact hloop p hp
  obtain ⟨d, hrun, hsetUp⟩ := setUp_of_setupStatements appRole htakes hsettable happ hapart
  have hapart' : ∀ role ∈ distinctRoles profiles, ¬d.IsMember role appRole :=
    fun role hrole hmember => hapart role hrole (hsetUp.isMember hmember)
  obtain ⟨e, hagain, hsame⟩ := setUp_of_setupStatements appRole htakes hsettable happ hapart'
  obtain rfl := hsetUp.again hsame
  refine ⟨e, hrun, hsetUp, hagain, fun p hp => ?_⟩
  have hrole : p.role ∈ distinctRoles profiles := mem_distinctRoles.mpr ⟨p, hp, rfl⟩
  have hexists : ∀ role, role ∈ c.roles ∨ role ∈ distinctRoles profiles → role ∈ e.roles := by
    intro role hcase
    rw [hsetUp.exist, Finset.mem_union, List.mem_toFinset]
    exact hcase
  exact ⟨hexists p.role (Or.inr hrole),
    fun happ => hsetUp.joins (hexists appRole (Or.inl happ)) hrole⟩

end Effect

/-! ## An example -/

/-- A cluster with the connecting role alone. -/
def freshCluster : Cluster where
  roles := {lit "app"}
  setting _ _ := none
  members _ := ∅

theorem eq_of_isMember_freshCluster {user role : PyStr} (h : freshCluster.IsMember user role) :
    user = role := by
  rcases Relation.ReflTransGen.cases_head h with heq | ⟨r, hedge, -⟩
  · exact heq
  · exact absurd hedge (by simp [freshCluster])

theorem isQuotedName_app : IsQuotedName (lit "app") := by
  have hprintable : (lit "app").all fun c => 0x20 ≤ c.val && c.val < 0x7f := by decide
  refine ⟨by decide, by decide, fun c hc => ?_, by decide, by decide⟩
  simpa using List.all_eq_true.mp hprintable c hc

theorem isPlain_exampleProfiles :
    ∀ p ∈ [Grants.notesProfile, Grants.billingProfile], roleWordRules.IsPlain p.role := by
  intro p hp
  rcases List.mem_cons.mp hp with rfl | hp
  · exact isPlain_of_isWord (by decide) (by decide) (by decide)
  · obtain rfl := List.mem_singleton.mp hp
    exact isPlain_of_isWord (by decide) (by decide) (by decide)

/-- On a fresh cluster the connecting role joins the roles of the notes and of the billing. -/
theorem role_setup_fresh :
    ∃ d, runSetup (plainServer roleWordRules) (lit "app") freshCluster
        (setupStatements [lit "mcp_readonly_role", lit "mcp_billing_role"]) = .ok d ∧
      d.IsMember (lit "app") (lit "mcp_readonly_role") ∧
      d.IsMember (lit "app") (lit "mcp_billing_role") ∧
      d.setting (lit "mcp_billing_role") (lit "statement_timeout") = some (lit "5s") := by
  let _ := asciiDatabase
  have hnames : ∀ p ∈ [Grants.notesProfile, Grants.billingProfile], p.role ≠ lit "app" := by decide
  have hloop : ∀ p ∈ [Grants.notesProfile, Grants.billingProfile],
      ¬freshCluster.IsMember p.role (lit "app") :=
    fun p hp hmember => hnames p hp (eq_of_isMember_freshCluster hmember)
  have hroles : distinctRoles [Grants.notesProfile, Grants.billingProfile] =
      [lit "mcp_readonly_role", lit "mcp_billing_role"] := by decide
  have hsetup := role_setup roleWordRules (plainServer roleWordRules) importsAll
    [Grants.notesProfile, Grants.billingProfile] (lit "app") freshCluster (fun _ _ => trivial)
    (by decide) isPlain_exampleProfiles isQuotedName_app hloop
  obtain ⟨-, -, hfree⟩ := hsetup
  obtain ⟨d, hrun, hsetUp, -, hjoins⟩ := hfree (by decide)
  rw [hroles] at hrun hsetUp
  have happ : lit "app" ∈ freshCluster.roles := by decide
  refine ⟨d, hrun, (hjoins Grants.notesProfile (by simp)).2 happ,
    (hjoins Grants.billingProfile (by simp)).2 happ, ?_⟩
  exact hsetUp.guards _ (by simp) (lit "statement_timeout", lit "5s") (by decide)

end McpSql
