import McpSql.Conf
import McpSql.Foundations.Raising
import McpSql.Foundations.KeyedLoop
import McpSql.Python.Sorted

/-!
# Grant reconciliation

`grants.py`: the drift between the tables a profile declares and the tables its role may read, and the
statements that remove it.  The state is the `SELECT` grants of every role on the tables of the public
schema; the statements of one profile run in one transaction.
-/

namespace McpSql.Grants

open Python PyStr Effect

/-! ## The database -/

/-- A statement that changes the grants of a role; the role is interpolated without quotes. -/
inductive GrantStatement where
  | grant (table role : PyStr)
  | revoke (table role : PyStr)
  deriving DecidableEq, Repr

/-- The text of a statement. -/
def GrantStatement.sql : GrantStatement → PyStr
  | grant table role => lit "GRANT SELECT ON \"" ++ table ++ lit "\" TO " ++ role ++ lit ";"
  | revoke table role => lit "REVOKE SELECT ON \"" ++ table ++ lit "\" FROM " ++ role ++ lit ";"

/-- `model._meta`: the table, whether Django manages it, and the columns of the fields. -/
structure ModelMeta where
  dbTable : PyStr
  managed : Bool
  columns : List PyStr
  deriving DecidableEq, Repr

/-- What the reconciler depends on: the connection's alias, the model registry, and the database's
answers to its queries and statements. -/
structure GrantsServer where
  aliasName : PyStr
  getModel : PyStr → Except PyExc ModelMeta
  /-- Whether `pg_roles` has a role of this name. -/
  roleExists : PyStr → Except PyExc Bool
  /-- `pg_has_role(current_user, role, 'MEMBER')`. -/
  hasRole : PyStr → Except PyExc Bool
  /-- The columns of the view behind a table, probed while the profile is reconciled. -/
  viewColumns : Profile → PyStr → Except PyExc (List PyStr)
  /-- Whether the read of a role's grants succeeds. -/
  readGrants : PyStr → Except PyExc Unit
  /-- Whether a statement succeeds. -/
  answer : GrantStatement → Except PyExc Unit
  /-- Whether the transaction of a role commits. -/
  commit : PyStr → Except PyExc Unit
  /-- The role an unquoted name denotes. -/
  unquoted : PyStr → PyStr

/-- The grants of every role, the statements sent so far and the log. -/
structure GrantsState where
  grants : PyStr → Finset PyStr
  sent : List GrantStatement := []
  log : List LogRecord := []

/-- A computation on the database. -/
abbrev Reconciling := EStateM PyExc GrantsState

/-- What a statement does to the grants. -/
def GrantStatement.effect (server : GrantsServer) (grants : PyStr → Finset PyStr) :
    GrantStatement → PyStr → Finset PyStr
  | grant table role => Function.update grants (server.unquoted role)
      (insert table (grants (server.unquoted role)))
  | revoke table role => Function.update grants (server.unquoted role)
      ((grants (server.unquoted role)).erase table)

/-- `cur.execute` of a statement. -/
def execute (server : GrantsServer) (statement : GrantStatement) : Reconciling Unit := do
  modify fun s => { s with sent := s.sent ++ [statement] }
  call (server.answer statement)
  modify fun s => { s with grants := statement.effect server s.grants }

/-- `transaction.atomic()`: an exception undoes the changes of the grants. -/
def atomic (commit : Except PyExc Unit) (x : Reconciling Unit) : Reconciling Unit :=
  transaction (fun before after => { after with grants := before.grants }) commit x

/-! ## Reading the drift -/

/-- `_verify_default_alias`. -/
def verifyDefaultAlias [UnicodeDatabase] (server : GrantsServer) : Except PyExc Unit :=
  if server.aliasName = lit "default" then .ok ()
  else .error (.grantsReconcile (lit "grants.py expects the 'default' DB alias, got " ++
    PyStr.repr server.aliasName ++ lit ". The grants pipeline must run against the writeable " ++
    lit "default alias (mcp_readonly is NOLOGIN read-only)."))

/-- `declared_tables`: the table of each allowed model, once. -/
def declaredTables (server : GrantsServer) (profile : Profile) :
    Except PyExc (List (PyStr × PyStr)) := do
  let tables ← profile.allowedModels.mapM fun entry =>
    (fun model => (entry, model.dbTable)) <$> server.getModel entry
  return tables.eraseDups

/-- `set(declared_tables(profile).values())`. -/
def declared (server : GrantsServer) (profile : Profile) : Except PyExc (Finset PyStr) :=
  (fun tables => (tables.map Prod.snd).toFinset) <$> declaredTables server profile

/-- `granted_tables`. -/
def grantedTables [UnicodeDatabase] (server : GrantsServer) (role : PyStr) :
    Reconciling (Finset PyStr) := do
  call (verifyDefaultAlias server)
  call (server.readGrants role)
  return (← get).grants role

/-- `role_exists`. -/
def roleExists [UnicodeDatabase] (server : GrantsServer) (role : PyStr) : Except PyExc Bool := do
  verifyDefaultAlias server
  server.roleExists role

/-- `has_role_membership`. -/
def hasRoleMembership [UnicodeDatabase] (server : GrantsServer) (role : PyStr) :
    Except PyExc Bool := do
  verifyDefaultAlias server
  server.hasRole role

/-- `self_referential_entries`. -/
def selfReferentialEntries [UnicodeDatabase] (profile : Profile) : List PyStr :=
  profile.allowedModels.filter fun entry => startsWith (lit "mcp_sql.") (lower entry)

/-- What `_verify_view_parity` finds at one declared model. -/
def viewMismatch [UnicodeDatabase] (server : GrantsServer) (profile : Profile)
    (entry : PyStr × PyStr) : Except PyExc (Option PyStr) := do
  let model ← server.getModel entry.1
  if model.managed then
    return none
  else
    let viewColumns ← server.viewColumns profile entry.2
    if model.columns.toFinset = viewColumns.toFinset then
      return none
    else
      return some (lit "  " ++ entry.1 ++ lit " ↔ view " ++ PyStr.repr entry.2 ++
        lit ": model-only=" ++
        reprList (sorted (model.columns.toFinset \ viewColumns.toFinset)) ++ lit ", view-only=" ++
        reprList (sorted (viewColumns.toFinset \ model.columns.toFinset)))

/-- `_verify_view_parity`. -/
def verifyViewParity [UnicodeDatabase] (server : GrantsServer) (profile : Profile) :
    Except PyExc Unit := do
  verifyDefaultAlias server
  let mismatches ← (← declaredTables server profile).mapM (viewMismatch server profile)
  match mismatches.filterMap id with
  | [] => return ()
  | found => .error (.grantsReconcile (
      lit "Curated MCPxxx view ↔ unmanaged-model column drift:\n" ++
      (lit "\n").intercalate found ++
      lit "\nUpdate the CREATE_SQL, the state_operations CreateModel field list, and the " ++
      lit "unmanaged model in the owning app so all three agree."))

/-! ## Reconciling -/

/-- `ProfileDrift`. -/
structure ProfileDrift where
  granted : List PyStr := []
  revoked : List PyStr := []
  skippedReason : PyStr := []
  deriving DecidableEq, Repr

/-- `ProfileDrift.changed`. -/
def ProfileDrift.changed (drift : ProfileDrift) : Bool :=
  !drift.granted.isEmpty || !drift.revoked.isEmpty

/-- `DriftDiff`: the drift of each profile under its name. -/
structure DriftDiff where
  perProfile : List (PyStr × ProfileDrift)
  deriving DecidableEq, Repr

/-- `DriftDiff.changed`. -/
def DriftDiff.changed (diff : DriftDiff) : Bool := diff.perProfile.any (·.2.changed)

/-- What the preflight of a profile finds wrong with the environment. -/
inductive EnvFailure where
  | roleMissing
  | noMembership
  deriving DecidableEq, Repr

/-- The `skipped_reason` of a failure. -/
def EnvFailure.reason : EnvFailure → PyStr
  | roleMissing => lit "role_missing"
  | noMembership => lit "no_membership"

/-- The message of a failure. -/
def EnvFailure.message [UnicodeDatabase] (profile : Profile) : EnvFailure → PyStr
  | roleMissing => lit "Role " ++ profile.role ++ lit " (profile " ++ PyStr.repr profile.name ++
      lit ") does not exist. Apply the role setup SQL first (see mcp_sql/docs/role-setup.md)."
  | noMembership => lit "Current DB user is NOT a member of " ++ profile.role ++ lit " (profile " ++
      PyStr.repr profile.name ++ lit "). The executor's SET ROLE will fail at runtime. Apply " ++
      lit "role_setup as a DBA — see mcp_sql/docs/role-setup.md."

/-- The two checks of the environment, in order. -/
def envFailure [UnicodeDatabase] (server : GrantsServer) (profile : Profile) :
    Except PyExc (Option EnvFailure) := do
  let found ← roleExists server profile.role
  if found then
    let member ← hasRoleMembership server profile.role
    if member then
      return none
    else
      return some .noMembership
  else
    return some .roleMissing

/-- The drift of a role. -/
def driftOf (declared current : Finset PyStr) : ProfileDrift where
  granted := sorted (declared \ current)
  revoked := sorted (current \ declared)

/-- The statements that remove the drift of a role, in one transaction. -/
def applyDrift (server : GrantsServer) (role : PyStr) (drift : ProfileDrift) : Reconciling Unit :=
  atomic (server.commit role) do
    forM drift.granted fun table => execute server (.grant table role)
    forM drift.revoked fun table => execute server (.revoke table role)

/-- The part of `_reconcile_profile` after the preflight. -/
def reconcileRole [UnicodeDatabase] (server : GrantsServer) (profile : Profile) (apply : Bool) :
    Reconciling ProfileDrift := do
  call (verifyViewParity server profile)
  let declared ← call (declared server profile)
  let current ← grantedTables server profile.role
  let drift := driftOf declared current
  if apply && drift.changed then
    applyDrift server profile.role drift
    return drift
  else
    return drift

/-- `_reconcile_profile`. -/
def reconcileProfile [UnicodeDatabase] (server : GrantsServer) (strict apply : Bool)
    (profile : Profile) : Reconciling ProfileDrift :=
  match selfReferentialEntries profile with
  | bad@(_ :: _) => raise (.grantsReconcile (
      lit "Refusing to grant on mcp_sql models for profile " ++ PyStr.repr profile.name ++
      lit ": " ++ reprList bad ++ lit ". Remove these entries from the profile's ALLOWED_MODELS."))
  | [] => do
    match ← call (envFailure server profile) with
    | some failure =>
      if strict then
        raise (.grantsReconcile (failure.message profile))
      else
        modify fun s => { s with log := s.log ++
          [⟨.warning, lit "MCP grants reconcile skipped: " ++ failure.message profile⟩] }
        return { skippedReason := failure.reason }
    | none => reconcileRole server profile apply

/-- `reconcile_grants`; the names of the profiles are the keys of a mapping. -/
def reconcileGrants [UnicodeDatabase] (server : GrantsServer) (profiles : List Profile)
    (strict apply : Bool) : Reconciling DriftDiff := do
  call (verifyDefaultAlias server)
  let drifts ← profiles.mapM (reconcileProfile server strict apply)
  return ⟨(profiles.map Profile.name).zip drifts⟩

end McpSql.Grants
