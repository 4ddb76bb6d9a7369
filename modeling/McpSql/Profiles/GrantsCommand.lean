import McpSql.Profiles.Reconcile
import McpSql.Profiles.RoleSetup

/-!
# The callers of the reconciler

`mcp_sql_grants` prints the statements of a reconciliation, and fails on drift unless it applies them;
the signal after a migrate looks for drift and only logs it.  What the command announces without
`--apply` is what it sends with it, and it passes exactly when the grants are in sync.
-/

namespace McpSql.Grants

open Python PyStr Effect KeyedLoop

/-! ## The aggregates of a drift -/

/-- `DriftDiff.granted_count`. -/
def DriftDiff.grantedCount (diff : DriftDiff) : ℕ :=
  (diff.perProfile.map fun entry => entry.2.granted.length).sum

/-- `DriftDiff.revoked_count`. -/
def DriftDiff.revokedCount (diff : DriftDiff) : ℕ :=
  (diff.perProfile.map fun entry => entry.2.revoked.length).sum

/-! ## The command -/

/-- The database and what a command has printed. -/
structure CommandState where
  db : GrantsState
  stdout : List PyStr := []

/-- A management command. -/
abbrev Commanding := EStateM PyExc CommandState

/-- A computation on the database, as a part of a command. -/
def onDatabase {α : Type} (x : Reconciling α) : Commanding α := fun s =>
  match x.run s.db with
  | .ok a db => .ok a { s with db := db }
  | .error e db => .error e { s with db := db }

/-- `self.stdout.write`. -/
def writeLine (line : PyStr) : Commanding Unit :=
  modify fun s => { s with stdout := s.stdout ++ [line] }

/-- `isinstance(exc, GrantsReconcileError)`. -/
def isGrantsReconcile : PyExc → Bool
  | .grantsReconcile _ => true
  | _ => false

/-- The handler of the command. -/
def asCommandError : PyExc → PyExc
  | .grantsReconcile text => commandError text
  | e => e

/-- The statements of a role's drift. -/
def driftStatements (role : PyStr) (drift : ProfileDrift) : List GrantStatement :=
  drift.granted.map (.grant · role) ++ drift.revoked.map (.revoke · role)

/-- `profiles[name].role`. -/
def roleOf [UnicodeDatabase] (profiles : List Profile) (name : PyStr) : Except PyExc PyStr :=
  match profiles.find? (·.name = name) with
  | some profile => .ok profile.role
  | none => .error (.otherException (lit "KeyError") (some (PyStr.repr name)))

/-- What is wrong with one profile, in words. -/
def driftParts (entry : PyStr × ProfileDrift) : List PyStr :=
  (if entry.2.granted = [] then [] else [lit "[" ++ entry.1 ++
    lit "] declared but not granted: " ++ (lit ", ").intercalate entry.2.granted]) ++
  (if entry.2.revoked = [] then [] else [lit "[" ++ entry.1 ++
    lit "] granted but not declared: " ++ (lit ", ").intercalate entry.2.revoked])

/-- The message of a run that finds drift and does not apply it. -/
def driftMessage (diff : DriftDiff) : PyStr :=
  lit "Grants drift detected — " ++
    (lit "; ").intercalate (diff.perProfile.flatMap driftParts) ++
    lit ". Re-run with --apply to reconcile."

/-- The line after an application. -/
def appliedLine (diff : DriftDiff) : PyStr :=
  lit "Applied: +" ++ ofNat diff.grantedCount ++ lit " grant(s), -" ++ ofNat diff.revokedCount ++
    lit " revoke(s) across " ++ ofNat diff.perProfile.length ++ lit " profile(s)."

/-- The line when there is nothing to do. -/
def inSyncLine : PyStr := lit "Grants in sync; no action."

/-- The lines for one profile. -/
def writeDrift [UnicodeDatabase] (profiles : List Profile) (entry : PyStr × ProfileDrift) :
    Commanding Unit := do
  let role ← call (roleOf profiles entry.1)
  forM (driftStatements role entry.2) fun statement => writeLine statement.sql

/-- `handle` of `mcp_sql_grants`. -/
def handleGrants [UnicodeDatabase] (server : GrantsServer) (profiles : List Profile)
    (apply : Bool) : Commanding Unit := do
  let result ← catching isGrantsReconcile
    (onDatabase (reconcileGrants server profiles true apply)) fun e => raise (asCommandError e)
  forM result.perProfile (writeDrift profiles)
  if result.changed = false then
    writeLine inSyncLine
  else if apply then
    writeLine (appliedLine result)
  else
    raise (commandError (driftMessage result))

/-! ## The signal -/

/-- The record that reports drift. -/
def driftWarning (drift : DriftDiff) : LogRecord :=
  ⟨.warning, lit "MCP grants DRIFT detected against the MCP_SQL[PROFILES] whitelists: +" ++
    ofNat drift.grantedCount ++ lit " to grant, -" ++ ofNat drift.revokedCount ++
    lit " to revoke (across profiles). Run `python manage.py mcp_sql_grants --apply` to " ++
    lit "reconcile (typically a deploy-pipeline step)."⟩

/-- Append to the log of the database's process. -/
def logRecord (record : LogRecord) : Reconciling Unit :=
  modify fun s => { s with log := s.log ++ [record] }

/-- The record of a comparison that failed. -/
def failedRecord : LogRecord := ⟨.exception, lit "MCP grants drift detection failed"⟩

/-- `audit_grants_drift_after_migrate`, for the label of the sender and the alias it is called
with. -/
def auditGrantsDriftAfterMigrate [UnicodeDatabase] (server : GrantsServer) (profiles : List Profile)
    (sender usingAlias : Option PyStr) : Reconciling Unit :=
  if sender ≠ some (lit "mcp_sql") then pure ()
  else if usingAlias.any fun alias' => alias' ≠ [] && alias' ≠ lit "default" then pure ()
  else do
    let drift ← catching isGrantsReconcile (some <$> reconcileGrants server profiles false false)
      fun _ => do
        logRecord failedRecord
        return none
    forM drift.toList fun found =>
      if found.changed then logRecord (driftWarning found) else pure ()

/-! ## What the statements are -/

/-- No grant has changed and no statement was sent. -/
def SameGrants (s t : GrantsState) : Prop := t.grants = s.grants ∧ t.sent = s.sent

theorem SameGrants.refl (s : GrantsState) : SameGrants s s := ⟨rfl, rfl⟩

theorem SameGrants.trans (s t u : GrantsState) (h : SameGrants s t) (h' : SameGrants t u) :
    SameGrants s u := ⟨h'.1.trans h.1, h'.2.trans h.2⟩

section Sent

variable {server : GrantsServer}

theorem sent_of_run_execute {statement : GrantStatement} {s t : GrantsState} {u : Unit}
    (h : (execute server statement).run s = .ok u t) : t.sent = s.sent ++ [statement] := by
  unfold execute at h
  cases hanswer : server.answer statement with
  | ok answered =>
    simp only [hanswer, EStateM.run_bind, EStateM.run_modify, run_call_ok,
      EStateM.Result.ok.injEq] at h
    rw [← h.2]
  | error e => simp [hanswer] at h

theorem sent_of_run_forM {tables : List PyStr} {statement : PyStr → GrantStatement}
    {s t : GrantsState} {u : PUnit}
    (h : (forM tables fun table => execute server (statement table)).run s = .ok u t) :
    t.sent = s.sent ++ tables.map statement := by
  induction tables generalizing s with
  | nil =>
    obtain ⟨-, rfl⟩ := EStateM.Result.ok.inj h
    simp
  | cons table rest ih =>
    rw [List.forM_cons] at h
    obtain ⟨v, s', hrun, hrest⟩ := run_bind_eq_ok.mp h
    rw [ih hrest, sent_of_run_execute hrun, List.map_cons, List.append_assoc]
    rfl

/-- A transaction that commits has sent the statements of the drift. -/
theorem sent_of_run_applyDrift {role : PyStr} {drift : ProfileDrift} {s t : GrantsState} {u : Unit}
    (h : (applyDrift server role drift).run s = .ok u t) :
    t.sent = s.sent ++ driftStatements role drift := by
  obtain ⟨v, s', hgranted, hrevoked⟩ := run_bind_eq_ok.mp (run_of_run_transaction h)
  rw [sent_of_run_forM hrevoked, sent_of_run_forM hgranted, List.append_assoc]
  rfl

/-- A drift without changes has no statements. -/
theorem driftStatements_of_unchanged (role : PyStr) {drift : ProfileDrift}
    (h : drift.changed = false) : driftStatements role drift = [] := by
  unfold ProfileDrift.changed at h
  obtain ⟨hgranted, hrevoked⟩ := Bool.or_eq_false_iff.mp h
  have hnoGrant : drift.granted = [] := List.isEmpty_iff.mp (by simpa using hgranted)
  have hnoRevoke : drift.revoked = [] := List.isEmpty_iff.mp (by simpa using hrevoked)
  simp [driftStatements, hnoGrant, hnoRevoke]

variable [UnicodeDatabase]

/-- A profile that is reconciled with `apply` has sent the statements of its drift, and nothing
without. -/
theorem sent_of_run_reconcileProfile {strict apply : Bool} {profile : Profile} {s t : GrantsState}
    {drift : ProfileDrift} (h : (reconcileProfile server strict apply profile).run s = .ok drift t) :
    t.sent = s.sent ++ if apply then driftStatements profile.role drift else [] := by
  rcases reconcileProfile_cases server profile with ⟨tables, hready⟩ | ⟨failure, hskips⟩ | ⟨e, herror⟩
  · rw [run_reconcileProfile_ready hready] at h
    by_cases happly : (apply && (driftOf tables (s.grants profile.role)).changed) = true
    · rw [if_pos happly] at h
      cases hrun : (applyDrift server profile.role
          (driftOf tables (s.grants profile.role))).run s with
      | error e t' => simp [hrun] at h
      | ok u t' =>
        simp only [hrun, EStateM.Result.ok.injEq] at h
        obtain ⟨rfl, rfl⟩ := h
        rw [sent_of_run_applyDrift hrun, if_pos (Bool.and_eq_true_iff.mp happly).1]
    · rw [if_neg happly] at h
      obtain ⟨rfl, rfl⟩ := EStateM.Result.ok.inj h
      cases apply with
      | false => simp
      | true =>
        have hunchanged : (driftOf tables (s.grants profile.role)).changed = false := by
          simpa using happly
        simp [driftStatements_of_unchanged _ hunchanged]
  · rw [run_reconcileProfile_skips hskips] at h
    cases strict with
    | true => simp at h
    | false =>
      obtain ⟨rfl, rfl⟩ := EStateM.Result.ok.inj h
      simp [driftStatements]
  · rw [herror] at h
    exact absurd h (by simp)

/-- The statements of the drifts of some profiles. -/
def allStatements (profiles : List Profile) (drifts : List ProfileDrift) : List GrantStatement :=
  (profiles.zip drifts).flatMap fun entry => driftStatements entry.1.role entry.2

/-- The loop has an entry for each profile, and with `apply` it has sent the statements of all. -/
theorem sent_of_run_mapM {strict apply : Bool} {profiles : List Profile} {s t : GrantsState}
    {drifts : List ProfileDrift}
    (h : (profiles.mapM (reconcileProfile server strict apply)).run s = .ok drifts t) :
    profiles.length = drifts.length ∧
      t.sent = s.sent ++ if apply then allStatements profiles drifts else [] := by
  induction profiles generalizing s drifts with
  | nil =>
    obtain ⟨rfl, rfl⟩ := EStateM.Result.ok.inj h
    simp [allStatements]
  | cons profile rest ih =>
    obtain ⟨drift, u, others, hfirst, hrest, rfl⟩ := calls_of_run_mapM_cons h
    obtain ⟨hlength, hsent⟩ := ih hrest
    refine ⟨by simp [hlength], ?_⟩
    rw [hsent, sent_of_run_reconcileProfile hfirst, List.append_assoc]
    cases apply with
    | false => simp
    | true => simp [allStatements]

/-- So has `reconcile_grants`. -/
theorem sent_of_run_reconcileGrants {strict apply : Bool} {profiles : List Profile}
    {s t : GrantsState} {drifts : List ProfileDrift} (hlength : profiles.length = drifts.length)
    (h : (reconcileGrants server profiles strict apply).run s =
      .ok ⟨(profiles.map Profile.name).zip drifts⟩ t) :
    t.sent = s.sent ++ if apply then allStatements profiles drifts else [] := by
  rw [run_reconcileGrants] at h
  cases halias : verifyDefaultAlias server with
  | error e => simp [halias] at h
  | ok u =>
    simp only [halias] at h
    cases hruns : (profiles.mapM (reconcileProfile server strict apply)).run s with
    | error e t' => simp [hruns] at h
    | ok found t' =>
      simp only [hruns, EStateM.Result.ok.injEq, DriftDiff.mk.injEq] at h
      obtain ⟨hzip, rfl⟩ := h
      obtain ⟨hfound, hsent⟩ := sent_of_run_mapM hruns
      have hsame := congrArg (List.map Prod.snd) hzip
      rw [List.map_snd_zip (by simp [hfound]), List.map_snd_zip (by simp [hlength])] at hsame
      rw [hsent, hsame]

/-- Without `apply` nothing is sent and no grant changes. -/
theorem keeps_reconcileGrants_dry (server : GrantsServer) (profiles : List Profile)
    (strict : Bool) : Keeps SameGrants (reconcileGrants server profiles strict false) := by
  have hprofile : ∀ p ∈ profiles, Keeps SameGrants (reconcileProfile server strict false p) := by
    intro p _ s
    rcases reconcileProfile_cases server p with ⟨tables, hready⟩ | ⟨failure, hskips⟩ | ⟨e, herror⟩
    · rw [run_reconcileProfile_ready hready]
      exact SameGrants.refl s
    · rw [run_reconcileProfile_skips hskips]
      cases strict <;> exact SameGrants.refl s
    · rw [herror]
      exact SameGrants.refl s
  intro s
  rcases finalState_reconcileGrants server profiles strict false s with hstay | hloop
  · rw [hstay]
    exact SameGrants.refl s
  · rw [hloop]
    exact Keeps.mapM SameGrants.refl SameGrants.trans hprofile s

end Sent

/-! ## What the command prints -/

section Printed

variable [UnicodeDatabase] {server : GrantsServer} {profiles : List Profile}

omit [UnicodeDatabase] in
theorem run_forM_writeLine (statements : List GrantStatement) (s : CommandState) :
    (forM statements fun statement => writeLine statement.sql : Commanding PUnit).run s =
      .ok ⟨⟩ { s with stdout := s.stdout ++ statements.map GrantStatement.sql } := by
  induction statements generalizing s with
  | nil => simp
  | cons statement rest ih =>
    have hfirst : (writeLine statement.sql).run s =
        .ok () { s with stdout := s.stdout ++ [statement.sql] } := rfl
    rw [List.forM_cons, EStateM.run_bind, hfirst]
    refine (ih _).trans ?_
    simp

/-- A name is looked up to its profile. -/
theorem roleOf_name (hnames : (profiles.map Profile.name).Nodup) {p : Profile} (hp : p ∈ profiles) :
    roleOf profiles p.name = .ok p.role := by
  unfold roleOf
  cases hfind : profiles.find? (·.name = p.name) with
  | none =>
    have hother := List.find?_eq_none.mp hfind p hp
    simp at hother
  | some found =>
    have hname : found.name = p.name := by simpa using List.find?_some hfind
    rw [List.inj_on_of_nodup_map hnames (List.mem_of_find?_eq_some hfind) hp hname]

/-- The lines of all profiles are the texts of their statements. -/
theorem run_forM_writeDrift (hnames : (profiles.map Profile.name).Nodup) {some' : List Profile}
    (hsome : ∀ p ∈ some', p ∈ profiles) (drifts : List ProfileDrift) (s : CommandState) :
    (forM ((some'.map Profile.name).zip drifts) (writeDrift profiles)).run s =
      .ok ⟨⟩ { s with stdout := s.stdout ++ (allStatements some' drifts).map GrantStatement.sql } := by
  induction some' generalizing drifts s with
  | nil => simp [allStatements]
  | cons p rest ih =>
    cases drifts with
    | nil => simp [allStatements]
    | cons drift others =>
      have hfirst : (writeDrift profiles (p.name, drift)).run s = .ok ⟨⟩ { s with
          stdout := s.stdout ++ (driftStatements p.role drift).map GrantStatement.sql } := by
        unfold writeDrift
        rw [roleOf_name hnames (hsome p List.mem_cons_self), EStateM.run_bind, run_call_ok]
        exact run_forM_writeLine _ s
      rw [List.map_cons, List.zip_cons_cons, List.forM_cons, EStateM.run_bind, hfirst]
      refine (ih (fun q hq => hsome q (List.mem_cons_of_mem _ hq)) others _).trans ?_
      simp [allStatements]

/-- What the command does once the reconciler has returned. -/
theorem run_handleGrants_ok (hnames : (profiles.map Profile.name).Nodup) {apply : Bool}
    {s : CommandState} {drifts : List ProfileDrift} {db : GrantsState}
    (h : (reconcileGrants server profiles true apply).run s.db =
      .ok ⟨(profiles.map Profile.name).zip drifts⟩ db) :
    let diff : DriftDiff := ⟨(profiles.map Profile.name).zip drifts⟩
    let printed := s.stdout ++ (allStatements profiles drifts).map GrantStatement.sql
    (handleGrants server profiles apply).run s =
      if diff.changed = false then .ok () ⟨db, printed ++ [inSyncLine]⟩
      else if apply then .ok () ⟨db, printed ++ [appliedLine diff]⟩
      else .error (commandError (driftMessage diff)) ⟨db, printed⟩ := by
  intro diff printed
  have hread : (onDatabase (reconcileGrants server profiles true apply)).run s =
      .ok diff { s with db := db } := by
    show onDatabase (reconcileGrants server profiles true apply) s = _
    unfold onDatabase
    rw [h]
  unfold handleGrants
  rw [EStateM.run_bind, run_catching, hread]
  simp only []
  rw [EStateM.run_bind, run_forM_writeDrift hnames fun _ hp => hp]
  simp only []
  split_ifs <;> rfl

/-- A command returns only when the reconciler has. -/
theorem reconciled_of_run_handleGrants {apply : Bool} {s t : CommandState} {u : Unit}
    (h : (handleGrants server profiles apply).run s = .ok u t) :
    ∃ diff db, (reconcileGrants server profiles true apply).run s.db = .ok diff db := by
  unfold handleGrants at h
  obtain ⟨diff, v, hread, -⟩ := run_bind_eq_ok.mp h
  cases hrun : (reconcileGrants server profiles true apply).run s.db with
  | ok found db => exact ⟨found, db, rfl⟩
  | error e db =>
    have hraise : (onDatabase (reconcileGrants server profiles true apply)).run s =
        .error e { s with db := db } := by
      show onDatabase (reconcileGrants server profiles true apply) s = _
      unfold onDatabase
      rw [hrun]
    rw [run_catching, hraise] at hread
    by_cases hcaught : isGrantsReconcile e = true
    · simp [hcaught] at hread
    · simp [hcaught] at hread

end Printed

/-! ## Grants in sync -/

/-- The pipeline is on its alias, and each role holds exactly what its profile declares, with
everything up to that comparison in order. -/
structure InSync [UnicodeDatabase] (server : GrantsServer) (profiles : List Profile)
    (grants : PyStr → Finset PyStr) : Prop where
  onDefault : verifyDefaultAlias server = .ok ()
  held : ∀ p ∈ profiles, Ready server p (grants p.role)

section InSync

variable [UnicodeDatabase] {server : GrantsServer} {profiles : List Profile}

omit [UnicodeDatabase] in
theorem driftStatements_eq_nil_iff (role : PyStr) (drift : ProfileDrift) :
    driftStatements role drift = [] ↔ drift.changed = false := by
  unfold driftStatements ProfileDrift.changed
  simp

omit [UnicodeDatabase] in
/-- The result is unchanged exactly when no profile drifts. -/
theorem changed_eq_false_iff {drifts : List ProfileDrift}
    (hlength : profiles.length = drifts.length) :
    (⟨(profiles.map Profile.name).zip drifts⟩ : DriftDiff).changed = false ↔
      ∀ drift ∈ drifts, drift.changed = false := by
  have hdrifts : ((profiles.map Profile.name).zip drifts).map Prod.snd = drifts :=
    List.map_snd_zip (by simp [hlength])
  unfold DriftDiff.changed
  rw [List.any_eq_false]
  constructor
  · intro h drift hdrift
    rw [← hdrifts] at hdrift
    obtain ⟨entry, hentry, rfl⟩ := List.mem_map.mp hdrift
    exact Bool.not_eq_true _ ▸ h entry hentry
  · intro h entry hentry
    rw [Bool.not_eq_true]
    exact h _ (List.of_mem_zip hentry).2

omit [UnicodeDatabase] in
/-- There are statements exactly when there is drift. -/
theorem allStatements_eq_nil_iff {drifts : List ProfileDrift}
    (hlength : profiles.length = drifts.length) : allStatements profiles drifts = [] ↔
      (⟨(profiles.map Profile.name).zip drifts⟩ : DriftDiff).changed = false := by
  have hdrifts : (profiles.zip drifts).map Prod.snd = drifts := List.map_snd_zip (by simp [hlength])
  rw [changed_eq_false_iff hlength, allStatements, List.flatMap_eq_nil_iff]
  simp only [driftStatements_eq_nil_iff]
  constructor
  · intro h drift hdrift
    rw [← hdrifts] at hdrift
    obtain ⟨entry, hentry, rfl⟩ := List.mem_map.mp hdrift
    exact h entry hentry
  · exact fun h entry hentry => h _ (List.of_mem_zip hentry).2

/-- What the comparison returns when the grants are in sync. -/
theorem InSync.run_reconcileGrants {s : GrantsState} (h : InSync server profiles s.grants)
    (strict apply : Bool) : ∃ drifts, profiles.length = drifts.length ∧
      (reconcileGrants server profiles strict apply).run s =
        .ok ⟨(profiles.map Profile.name).zip drifts⟩ s ∧
      allStatements profiles drifts = [] := by
  let drifts := profiles.map fun p => driftOf (s.grants p.role) (s.grants p.role)
  have hquiet : List.Forall₂ (fun p drift => ∃ tables, Ready server p tables ∧
      drift = driftOf tables (s.grants p.role) ∧ (apply = true → s.grants p.role = tables))
      profiles drifts := by
    rw [List.forall₂_map_right_iff, List.forall₂_same]
    exact fun p hp => ⟨_, h.held p hp, rfl, fun _ => rfl⟩
  refine ⟨drifts, by simp [drifts], run_reconcileGrants_quiet h.onDefault strict apply hquiet, ?_⟩
  unfold allStatements
  rw [List.flatMap_eq_nil_iff]
  intro entry hentry
  obtain ⟨p, -, hp⟩ := List.mem_map.mp (List.of_mem_zip hentry).2
  rw [driftStatements_eq_nil_iff, ← hp, ← Bool.not_eq_true, changed_driftOf_iff]
  exact fun hne => hne rfl

/-- What the command does, by the statements that there are. -/
theorem run_handleGrants_listed (hnames : (profiles.map Profile.name).Nodup)
    {apply : Bool} {s : CommandState} {drifts : List ProfileDrift} {db : GrantsState}
    (hlength : profiles.length = drifts.length)
    (h : (reconcileGrants server profiles true apply).run s.db =
      .ok ⟨(profiles.map Profile.name).zip drifts⟩ db) :
    let diff : DriftDiff := ⟨(profiles.map Profile.name).zip drifts⟩
    let printed := s.stdout ++ (allStatements profiles drifts).map GrantStatement.sql
    (handleGrants server profiles apply).run s =
      if allStatements profiles drifts = [] then .ok () ⟨db, s.stdout ++ [inSyncLine]⟩
      else if apply then .ok () ⟨db, printed ++ [appliedLine diff]⟩
      else .error (commandError (driftMessage diff)) ⟨db, printed⟩ := by
  intro diff printed
  have hnone := allStatements_eq_nil_iff hlength
  rw [run_handleGrants_ok hnames h]
  by_cases hchanged : diff.changed = false
  · rw [if_pos hchanged, if_pos (hnone.mpr hchanged), hnone.mpr hchanged]
    simp
  · rw [if_neg hchanged, if_neg (hnone.not.mpr hchanged)]

/-- In sync, the command says so and does nothing else. -/
theorem InSync.run_handleGrants (hnames : (profiles.map Profile.name).Nodup) {s : CommandState}
    (h : InSync server profiles s.db.grants) (apply : Bool) :
    (handleGrants server profiles apply).run s =
      .ok () { s with stdout := s.stdout ++ [inSyncLine] } := by
  obtain ⟨drifts, hlength, hrun, hnone⟩ := h.run_reconcileGrants true apply
  rw [run_handleGrants_listed hnames hlength hrun, if_pos hnone]

/-- What an application that returns has found, and left. -/
theorem compared_of_run (hroles : (profiles.map Profile.role).Nodup)
    (hexact : ∀ p ∈ profiles, server.unquoted p.role = p.role) {s t : GrantsState}
    {diff : DriftDiff} (h : (reconcileGrants server profiles true true).run s = .ok diff t) :
    verifyDefaultAlias server = .ok () ∧ ∃ drifts,
      diff = ⟨(profiles.map Profile.name).zip drifts⟩ ∧
        List.Forall₂ (fun p drift => ∃ tables, Ready server p tables ∧
          drift = driftOf tables (s.grants p.role) ∧ t.grants p.role = tables) profiles drifts := by
  obtain ⟨halias, drifts, hdiff, hreturned⟩ := returned_of_reconcileGrants hroles hexact h
  refine ⟨halias, drifts, hdiff, hreturned.imp ?_⟩
  rintro p drift (⟨tables, hready, hdrift, hafter⟩ | ⟨failure, -, hlenient, -, -⟩)
  · exact ⟨tables, hready, hdrift, hafter⟩
  · exact absurd hlenient (by decide)

/-- What the loop of a check that returns has found. -/
theorem compared_of_run_mapM {s t : GrantsState} {drifts : List ProfileDrift}
    (h : (profiles.mapM (reconcileProfile server true false)).run s = .ok drifts t) :
    List.Forall₂ (fun p drift => ∃ tables, Ready server p tables ∧
      drift = driftOf tables (s.grants p.role)) profiles drifts := by
  induction profiles generalizing s drifts with
  | nil =>
    obtain ⟨rfl, rfl⟩ := EStateM.Result.ok.inj h
    exact .nil
  | cons p rest ih =>
    obtain ⟨drift, u, others, hfirst, hrest, rfl⟩ := calls_of_run_mapM_cons h
    rcases reconcileProfile_cases server p with ⟨tables, hready⟩ | ⟨failure, hskips⟩ | ⟨e, herror⟩
    · rw [run_reconcileProfile_ready hready] at hfirst
      obtain ⟨rfl, rfl⟩ := EStateM.Result.ok.inj hfirst
      exact .cons ⟨tables, hready, rfl⟩ (ih hrest)
    · rw [run_reconcileProfile_skips hskips] at hfirst
      simp at hfirst
    · rw [herror] at hfirst
      simp at hfirst

/-- What a check that returns has found. -/
theorem compared_of_check {s t : GrantsState} {diff : DriftDiff}
    (h : (reconcileGrants server profiles true false).run s = .ok diff t) :
    verifyDefaultAlias server = .ok () ∧ ∃ drifts,
      diff = ⟨(profiles.map Profile.name).zip drifts⟩ ∧
        List.Forall₂ (fun p drift => ∃ tables, Ready server p tables ∧
          drift = driftOf tables (s.grants p.role)) profiles drifts := by
  rw [run_reconcileGrants] at h
  cases halias : verifyDefaultAlias server with
  | error e => simp [halias] at h
  | ok u =>
    simp only [halias] at h
    cases hruns : (profiles.mapM (reconcileProfile server true false)).run s with
    | error e t' => simp [hruns] at h
    | ok drifts t' =>
      simp only [hruns, EStateM.Result.ok.injEq] at h
      exact ⟨rfl, drifts, h.1.symm, compared_of_run_mapM hruns⟩

/-- The command passes as a check only when the grants are in sync. -/
theorem inSync_of_check (hnames : (profiles.map Profile.name).Nodup) {s t : CommandState} {u : Unit}
    (h : (handleGrants server profiles false).run s = .ok u t) :
    InSync server profiles s.db.grants := by
  obtain ⟨diff, db, hrun⟩ := reconciled_of_run_handleGrants h
  obtain ⟨halias, drifts, rfl, hcompared⟩ := compared_of_check hrun
  rw [run_handleGrants_ok hnames hrun] at h
  have hunchanged : (⟨(profiles.map Profile.name).zip drifts⟩ : DriftDiff).changed = false := by
    by_contra hchanged
    simp [hchanged] at h
  refine ⟨halias, fun p hp => ?_⟩
  obtain ⟨drift, hmem, tables, hready, rfl⟩ := Raising.exists_of_forall₂_left hcompared hp
  have hheld : s.db.grants p.role = tables := by
    by_contra hne
    have hchanged := (changed_driftOf_iff tables (s.db.grants p.role)).mpr hne
    rw [(changed_eq_false_iff hcompared.length_eq).mp hunchanged _ hmem] at hchanged
    exact absurd hchanged (by decide)
  rw [hheld]
  exact hready

end InSync

end McpSql.Grants
