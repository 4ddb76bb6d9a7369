import McpSql.Executor.Smoke

/-!
# What the smoke check tells

The command passes exactly when the role is entered as it is configured, reads its table, and is
refused the audit table and the write; with a query it does what `run_query` does and no more.
-/

namespace McpSql

open Python PyStr Effect Raising Postgres

/-! ## When a check passes -/

/-- The computation returns exactly under this condition, from every state. -/
def ReturnsIff {α : Type} (p : Prop) (x : Smoking α) : Prop :=
  ∀ s, (∃ a t, x.run s = .ok a t) ↔ p

section Returns

variable {α β : Type} {p q : Prop}

theorem ReturnsIff.bind {x : Smoking α} {f : α → Smoking β} (hx : ReturnsIff p x)
    (hf : ∀ a, ReturnsIff q (f a)) : ReturnsIff (p ∧ q) (x >>= f) := by
  intro s
  constructor
  · rintro ⟨b, t, hrun⟩
    obtain ⟨a, u, hfirst, hrest⟩ := run_bind_eq_ok.mp hrun
    exact ⟨(hx s).mp ⟨a, u, hfirst⟩, (hf a u).mp ⟨b, t, hrest⟩⟩
  · rintro ⟨hp, hq⟩
    obtain ⟨a, u, hfirst⟩ := (hx s).mpr hp
    obtain ⟨b, t, hrest⟩ := (hf a u).mpr hq
    exact ⟨b, t, run_bind_eq_ok.mpr ⟨a, u, hfirst, hrest⟩⟩

theorem returnsIff_say (line : PyStr) : ReturnsIff True (say line) :=
  fun _ => iff_of_true ⟨(), _, rfl⟩ trivial

theorem ReturnsIff.call_bind {r : Except PyExc α} {f : α → Smoking β} {p : α → Prop}
    (hf : ∀ a, ReturnsIff (p a) (f a)) :
    ReturnsIff (∃ a, r = .ok a ∧ p a) (call r >>= f) := by
  intro s
  cases r with
  | ok a =>
    rw [EStateM.run_bind, run_call_ok]
    rw [show (∃ a', (Except.ok a : Except PyExc α) = .ok a' ∧ p a') ↔ p a by simp]
    exact hf a s
  | error e =>
    rw [EStateM.run_bind, run_call_error]
    simp

theorem returnsIff_raise (e : PyExc) : ReturnsIff False (raise e : Smoking α) := by
  intro s
  simp

/-- A transaction comes to its answer, from every state. -/
theorem outcome_inTransaction {server : SmokeServer} {check : SmokeCheck} {setRollback : Bool}
    {session : Session Unit} {r : Except PyExc Unit} {script : List Statement}
    (hscript : Scripted session r script) (s : SmokeState) :
    outcome ((inTransaction server check setRollback session).run s) =
      transactionAnswer server check setRollback r := by
  obtain ⟨pre, hrun, -⟩ := hscript.run_nil
  show outcome (inTransaction server check setRollback session s) = _
  unfold inTransaction transactionAnswer
  cases server.begin check with
  | error e => rfl
  | ok u =>
    rw [hrun, ok_bind]
    cases r with
    | error e => rfl
    | ok v =>
      simp only [resultOf_ok, ok_bind]
      cases setRollback with
      | true => rfl
      | false => cases hcommit : server.commit check <;> rfl

/-- What follows a `DatabaseError` that is caught, or none. -/
theorem ReturnsIff.databaseErrorOf_bind {x : Smoking Unit} {r : Except PyExc Unit}
    (hx : ∀ s, outcome (x.run s) = r) {f : Option PyExc → Smoking β} {p : Option PyExc → Prop}
    (hf : ∀ found, ReturnsIff (p found) (f found)) :
    ReturnsIff ((r = .ok () ∧ p none) ∨ ∃ e, r = .error e ∧ e.isDatabaseError = true ∧ p (some e))
      (databaseErrorOf x >>= f) := by
  intro s
  have hr := hx s
  unfold databaseErrorOf
  rw [EStateM.run_bind, run_catching, run_map]
  cases hrun : x.run s with
  | ok u t =>
    obtain rfl : r = .ok () := by rw [← hr, hrun, outcome_ok]
    simpa using hf none t
  | error e t =>
    obtain rfl : r = .error e := by rw [← hr, hrun, outcome_error]
    cases hcaught : e.isDatabaseError with
    | true => simpa [hcaught] using hf (some e) t
    | false => simp [hcaught]

end Returns

/-- The first operation that fails is refused by the database with one of these codes. -/
def RefusedWith (codes : List PyStr) (operations : List (Except PyExc Unit)) : Prop :=
  ∃ text, ∃ code ∈ codes,
    ComesTo (· = .ok ()) operations (.error (.databaseError text (some code)))

/-- The operations of a check up to its probe. -/
def SmokeCheck.operations (check : SmokeCheck) (server : SmokeServer) (role table : PyStr) :
    List (Except PyExc Unit) :=
  server.begin check :: (check.script role table).map (server.execute check)

/-- The read path works: the session is entered and is the expected one, and the table is read. -/
structure ReadPathOk (server : SmokeServer) (role table : PyStr) : Prop where
  begun : server.begin .readPath = .ok ()
  entered : ∀ statement ∈ openingStatements role, server.execute .readPath statement = .ok ()
  currentUser : settingAnswer server .readPath (lit "SELECT current_user") = .ok role
  gucs : ∀ guc ∈ expectedSessionGucs,
    settingAnswer server .readPath (lit "SHOW " ++ guc.1) = .ok guc.2
  selects : server.execute .readPath ⟨lit "SELECT 1", []⟩ = .ok ()
  one : ∃ row, server.fetchone .readPath ⟨lit "SELECT 1", []⟩ = .ok (some row) ∧ row.isOne = true
  reads : server.execute .readPath (selectFrom table) = .ok ()
  fetches : server.fetchall .readPath (selectFrom table) = .ok ()
  commits : server.commit .readPath = .ok ()

section Verdicts

variable {server : SmokeServer} {role table : PyStr}

/-- The comparison with one guard finds nothing exactly when it has its value. -/
theorem compared_eq_none_iff {r : Except PyExc PyStr} {name value : PyStr} :
    ((fun actual => if actual ≠ value then some (name, value, actual) else none) <$> r :
      Except PyExc (Option (PyStr × PyStr × PyStr))) = .ok none ↔ r = .ok value := by
  cases r with
  | error e => simp
  | ok actual =>
    by_cases hsame : actual = value
    · simp [hsame]
    · simp [hsame]

/-- There is no drift exactly when the role and every guard are the expected ones. -/
theorem driftAnswer_eq_nil_iff {check : SmokeCheck} : driftAnswer server check role = .ok [] ↔
    settingAnswer server check (lit "SELECT current_user") = .ok role ∧
      ∀ guc ∈ expectedSessionGucs,
        settingAnswer server check (lit "SHOW " ++ guc.1) = .ok guc.2 := by
  unfold driftAnswer
  constructor
  · intro h
    obtain ⟨actual, hactual, h⟩ := bind_eq_ok.mp h
    obtain ⟨found, hfound, h⟩ := bind_eq_ok.mp h
    obtain ⟨hrole, hgucs⟩ := List.append_eq_nil_iff.mp (Except.ok.inj h)
    refine ⟨?_, fun guc hguc => ?_⟩
    · have hsame : actual = role := by
        by_contra hne
        simp [hne] at hrole
      rw [hactual, hsame]
    · obtain ⟨entry, hentry, hcompared⟩ :=
        exists_of_forall₂_left (mapM_eq_ok_iff.mp hfound) hguc
      obtain rfl : entry = none := List.filterMap_eq_nil_iff.mp hgucs entry hentry
      exact compared_eq_none_iff.mp hcompared
  · rintro ⟨hrole, hgucs⟩
    have hnone : expectedSessionGucs.mapM (fun guc =>
        (fun actual => if actual ≠ guc.2 then some (guc.1, guc.2, actual) else none) <$>
          settingAnswer server check (lit "SHOW " ++ guc.1)) =
        .ok (expectedSessionGucs.map fun _ => none) := by
      rw [mapM_eq_ok_iff, List.forall₂_map_right_iff, List.forall₂_same]
      exact fun guc hguc => compared_eq_none_iff.mpr (hgucs guc hguc)
    refine bind_eq_ok.mpr ⟨role, hrole, bind_eq_ok.mpr ⟨_, hnone, ?_⟩⟩
    simp [Pure.pure, Except.pure]

/-- The read path comes to an end exactly when it works. -/
theorem readPath_eq_ok_iff [UnicodeDatabase] :
    transactionAnswer server .readPath false (readPathAnswer server role table) = .ok () ↔
      ReadPathOk server role table := by
  unfold transactionAnswer readPathAnswer
  constructor
  · intro h
    obtain ⟨_, hbegun, h⟩ := bind_eq_ok.mp h
    obtain ⟨_, hpath, hcommits⟩ := bind_eq_ok.mp h
    obtain ⟨_, hentered, h⟩ := bind_eq_ok.mp hpath
    obtain ⟨drift, hdrift, h⟩ := bind_eq_ok.mp h
    obtain ⟨_, hnil, h⟩ := bind_eq_ok.mp h
    obtain ⟨_, hselects, h⟩ := bind_eq_ok.mp h
    obtain ⟨row, hrow, h⟩ := bind_eq_ok.mp h
    obtain ⟨_, hone, h⟩ := bind_eq_ok.mp h
    obtain ⟨_, hreads, hfetches⟩ := bind_eq_ok.mp h
    obtain rfl : drift = [] := by simpa using hnil
    obtain ⟨hrole, hgucs⟩ := driftAnswer_eq_nil_iff.mp hdrift
    have hisOne : ∃ found, row = some found ∧ found.isOne = true := by simpa using hone
    obtain ⟨found, rfl, htrue⟩ := hisOne
    exact ⟨hbegun, forM_eq_ok.mp hentered, hrole, hgucs, hselects, ⟨found, hrow, htrue⟩, hreads,
      hfetches, hcommits⟩
  · intro h
    obtain ⟨row, hrow, hone⟩ := h.one
    have hdrift := driftAnswer_eq_nil_iff.mpr ⟨h.currentUser, h.gucs⟩
    refine bind_eq_ok.mpr ⟨(), h.begun, bind_eq_ok.mpr ⟨(), ?_, h.commits⟩⟩
    refine bind_eq_ok.mpr ⟨(), forM_eq_ok.mpr h.entered, bind_eq_ok.mpr ⟨[], hdrift, ?_⟩⟩
    refine bind_eq_ok.mpr ⟨(), by simp, bind_eq_ok.mpr ⟨(), h.selects, ?_⟩⟩
    refine bind_eq_ok.mpr ⟨_, hrow, bind_eq_ok.mpr ⟨(), by simp [hone], ?_⟩⟩
    exact bind_eq_ok.mpr ⟨(), h.reads, h.fetches⟩

/-- The operations of a check, one after another. -/
theorem operations_eq (check : SmokeCheck) (more : List (Except PyExc Unit)) :
    forM (check.operations server role table ++ more) id = (do
      server.begin check
      forM (openingStatements role) (server.execute check)
      forM (check.probes table) (server.execute check)
      forM more id : Except PyExc Unit) := by
  unfold SmokeCheck.operations SmokeCheck.script
  rw [List.cons_append, List.forM_cons, List.forM_append, forM_map, List.forM_append, bind_assoc]
  rfl

/-- A sequence of operations fails with one of these codes exactly when the first that fails does. -/
theorem refusedWith_iff {codes : List PyStr} {operations : List (Except PyExc Unit)} :
    RefusedWith codes operations ↔ ∃ text, ∃ code ∈ codes,
      (forM operations id : Except PyExc Unit) = .error (.databaseError text (some code)) := by
  unfold RefusedWith
  simp only [forM_eq_error, id_eq]
  constructor
  · rintro ⟨text, code, hcode, hcomes⟩
    exact ⟨text, code, hcode, _, hcomes, rfl⟩
  · rintro ⟨text, code, hcode, operation, hcomes, rfl⟩
    exact ⟨text, code, hcode, hcomes⟩

theorem forM_singleton_id (r : Except PyExc Unit) : forM [r] id = r := by
  cases r <;> rfl

/-- A transaction that is rolled back comes to what its body does. -/
theorem transactionAnswer_rollback (check : SmokeCheck) (r : Except PyExc Unit) :
    transactionAnswer server check true r = (server.begin check >>= fun _ => r) := by
  unfold transactionAnswer
  cases r <;> rfl

/-- The operations of the read of the audit table. -/
def auditOperations (server : SmokeServer) (role : PyStr) : List (Except PyExc Unit) :=
  SmokeCheck.auditUnreadable.operations server role [] ++
    [server.fetchall .auditUnreadable (selectFrom auditTable)]

theorem audit_eq : transactionAnswer server .auditUnreadable true (auditAnswer server role) =
    forM (auditOperations server role) id := by
  have hprobe : forM (SmokeCheck.auditUnreadable.probes []) (server.execute .auditUnreadable) =
      server.execute .auditUnreadable (selectFrom auditTable) :=
    (forM_map (g := id)).symm.trans (forM_singleton_id _)
  unfold auditOperations
  rw [transactionAnswer_rollback, operations_eq, forM_singleton_id, hprobe]
  rfl

theorem write_eq : transactionAnswer server .writeRejected true (writeAnswer server role table) =
    forM (SmokeCheck.writeRejected.operations server role table) id := by
  have hall := @operations_eq server role table .writeRejected []
  have hprobe : forM (SmokeCheck.writeRejected.probes table) (server.execute .writeRejected) =
      server.execute .writeRejected (insertInto table) :=
    (forM_map (g := id)).symm.trans (forM_singleton_id _)
  rw [List.append_nil, hprobe] at hall
  rw [transactionAnswer_rollback, hall]
  unfold writeAnswer
  cases server.execute .writeRejected (insertInto table) <;> rfl

end Verdicts

/-! ## What a run leaves alone -/

/-- The transactions and the process are the same. -/
def SameEffects (s t : SmokeState) : Prop := t.transactions = s.transactions ∧ t.world = s.world

theorem SameEffects.refl (s : SmokeState) : SameEffects s s := ⟨rfl, rfl⟩

theorem SameEffects.trans (s t u : SmokeState) (h : SameEffects s t) (h' : SameEffects t u) :
    SameEffects s u := ⟨h'.1.trans h.1, h'.2.trans h.2⟩

/-! ## The verdict -/

section Smoked

variable [UnicodeDatabase] {env : SmokeEnv}

theorem returnsIff_verifyReadPath (profile : Profile) (table : PyStr) :
    ReturnsIff (ReadPathOk env.server profile.role table) (verifyReadPath env profile table) := by
  intro s
  have hanswer : outcome ((inTransaction env.server .readPath false
      (readPathSession env.server profile.role table)).run s) =
        transactionAnswer env.server .readPath false
          (readPathAnswer env.server profile.role table) :=
    outcome_inTransaction (scripted_readPathSession _ _) s
  rw [← readPath_eq_ok_iff, ← hanswer]
  unfold verifyReadPath
  rw [EStateM.run_bind]
  cases (inTransaction env.server .readPath false
      (readPathSession env.server profile.role table)).run s with
  | ok u t => exact iff_of_true ⟨(), _, rfl⟩ rfl
  | error e t => simp

omit [UnicodeDatabase] in
/-- The exceptions with an SQLSTATE are the database's. -/
theorem eq_databaseError {e : PyExc} {code : PyStr} (h : pgcode e = some code) :
    ∃ text, e = .databaseError text (some code) := by
  unfold pgcode at h
  cases e with
  | databaseError text sqlstate =>
    obtain rfl : sqlstate = some code := h
    exact ⟨text, rfl⟩
  | _ => simp at h

omit [UnicodeDatabase] in
/-- A check that wants its transaction refused passes exactly when it is, with one of its codes. -/
theorem ReturnsIff.refused {codes : List PyStr} {x : Smoking Unit}
    {operations : List (Except PyExc Unit)} (hx : ∀ s, outcome (x.run s) = forM operations id)
    {f : Option PyExc → Smoking Unit} (hnone : ReturnsIff False (f none))
    (hsome : ∀ exc, ReturnsIff (∃ code ∈ codes, pgcode exc = some code) (f (some exc))) :
    ReturnsIff (RefusedWith codes operations) (databaseErrorOf x >>= f) := by
  let p : Option PyExc → Prop := fun found => ∃ exc, found = some exc ∧
    ∃ code ∈ codes, pgcode exc = some code
  have hf : ∀ found, ReturnsIff (p found) (f found) := by
    intro found s
    cases found with
    | none => exact (hnone s).trans (iff_of_false id (by simp [p]))
    | some exc => exact (hsome exc s).trans (by simp [p])
  intro s
  rw [ReturnsIff.databaseErrorOf_bind hx hf s, refusedWith_iff]
  constructor
  · rintro (⟨-, exc, hfound, -⟩ | ⟨e, herror, -, exc, hfound, code, hcode, hpgcode⟩)
    · exact absurd hfound (by simp)
    · obtain rfl := Option.some.inj hfound
      obtain ⟨text, rfl⟩ := eq_databaseError hpgcode
      exact ⟨text, code, hcode, herror⟩
  · rintro ⟨text, code, hcode, herror⟩
    exact Or.inr ⟨_, herror, rfl, _, rfl, code, hcode, rfl⟩

omit [UnicodeDatabase] in
theorem returnsIff_call_raise (r : Except PyExc PyStr) (f : PyStr → PyExc) :
    ReturnsIff False (call r >>= fun text => (raise (f text) : Smoking Unit)) := by
  intro s
  cases r <;> simp

theorem returnsIff_verifyAuditUnreadable (profile : Profile) :
    ReturnsIff (RefusedWith [lit "42501"] (auditOperations env.server profile.role))
      (verifyAuditUnreadable env profile) := by
  unfold verifyAuditUnreadable
  refine .refused (fun s => ?_) (returnsIff_raise _) fun exc => ?_
  · rw [outcome_inTransaction (scripted_auditSession profile.role []) s, audit_eq]
  · simp only [List.mem_singleton, exists_eq_left]
    by_cases hcode : pgcode exc = some (lit "42501")
    · simp only [hcode, if_true]
      exact returnsIff_say _
    · simp only [hcode, if_false]
      exact returnsIff_call_raise _ _

theorem returnsIff_verifyWriteRejected (profile : Profile) (table : PyStr) :
    ReturnsIff (RefusedWith expectedRejectionPgcodes
      (SmokeCheck.writeRejected.operations env.server profile.role table))
      (verifyWriteRejected env profile table) := by
  unfold verifyWriteRejected
  refine .refused (fun s => ?_) (returnsIff_raise _) fun exc => ?_
  · rw [outcome_inTransaction (scripted_writeSession profile.role table) s, write_eq]
  · intro s
    simp only
    cases hfound : (pgcode exc).filter (· ∈ expectedRejectionPgcodes) with
    | some code =>
      obtain ⟨hcode, hmem⟩ := Option.filter_eq_some_iff.mp hfound
      exact iff_of_true ⟨(), _, rfl⟩ ⟨code, by simpa using hmem, hcode⟩
    | none =>
      refine (returnsIff_call_raise _ _ s).trans (iff_of_false id ?_)
      rintro ⟨code, hmem, hcode⟩
      have hkept : (pgcode exc).filter (· ∈ expectedRejectionPgcodes) = some code :=
        Option.filter_eq_some_iff.mpr ⟨hcode, by simpa using hmem⟩
      exact absurd (hfound.symm.trans hkept) (by simp)

/-- What the three checks of a profile ask of the database. -/
structure SmokePasses (server : SmokeServer) (role table : PyStr) : Prop where
  readPath : ReadPathOk server role table
  audit : RefusedWith [lit "42501"] (auditOperations server role)
  write : RefusedWith expectedRejectionPgcodes
    (SmokeCheck.writeRejected.operations server role table)

theorem returnsIff_smokeChecks (profile : Profile) (table : PyStr) :
    ReturnsIff (SmokePasses env.server profile.role table) (smokeChecks env profile table) := by
  have hall : ReturnsIff _ (smokeChecks env profile table) :=
    (returnsIff_verifyReadPath profile table).bind fun _ =>
      (returnsIff_verifyAuditUnreadable profile).bind fun _ =>
        returnsIff_verifyWriteRejected profile table
  intro s
  refine (hall s).trans ⟨fun ⟨hread, haudit, hwrite⟩ => ⟨hread, haudit, hwrite⟩, fun h => ?_⟩
  exact ⟨h.readPath, h.audit, h.write⟩

/-- The profile and the table that the checks are about. -/
def smokeTarget (env : SmokeEnv) (options : SmokeOptions) : Except PyExc (Profile × PyStr) := do
  let profile ← smokeProfile env options.profile
  return (profile, ← smokeTable env profile options.table)

/-- The profile and the user of a query. -/
def queryTarget (env : SmokeEnv) (options : SmokeOptions) : Except PyExc (Profile × User) := do
  let profile ← smokeProfile env options.profile
  return (profile, ← attributedUser env options.asUser)

/-- A run ends with this exception, and has only printed. -/
def StopsWith (e : PyExc) (x : Smoking Unit) : Prop :=
  ∀ s, outcome (x.run s) = .error e ∧ SameEffects s (finalState (x.run s))

/-- The announcement of a run. -/
def announcement (profile : Profile) : PyStr :=
  lit "Smoking profile " ++ PyStr.repr profile.name ++ lit " (role " ++ profile.role ++ lit ")."

/-- A run without a query is its announcement and the three checks. -/
theorem run_handleSmoke_checks {options : SmokeOptions} (hconfigured : env.aliasConfigured = true)
    (hquery : options.runQuery.getD [] = []) {profile : Profile}
    (hprofile : smokeProfile env options.profile = .ok profile) (s : SmokeState) :
    (handleSmoke env options).run s =
      (call (smokeTable env profile options.table) >>= smokeChecks env profile).run
        { s with stdout := s.stdout ++ [announcement profile] } := by
  unfold handleSmoke
  rw [hprofile]
  simp only [hconfigured, Bool.not_true, Bool.false_eq_true, if_false]
  rcases hrun : options.runQuery with _ | _ | ⟨c, rest⟩
  · rfl
  · rfl
  · rw [hrun] at hquery
    exact absurd hquery (by simp)

/-- A run with a query is its announcement and the query. -/
theorem run_handleSmoke_query {options : SmokeOptions} (hconfigured : env.aliasConfigured = true)
    {rawSql : PyStr} (hrawSql : rawSql ≠ []) (hquery : options.runQuery = some rawSql)
    {profile : Profile} (hprofile : smokeProfile env options.profile = .ok profile)
    (s : SmokeState) :
    (handleSmoke env options).run s = (smokeRunQuery env options profile rawSql).run
      { s with stdout := s.stdout ++ [announcement profile] } := by
  obtain ⟨c, rest, rfl⟩ := List.exists_cons_of_ne_nil hrawSql
  unfold handleSmoke
  rw [hprofile, hquery]
  simp only [hconfigured, Bool.not_true, Bool.false_eq_true, if_false]
  rfl

/-- A run whose profile is unknown. -/
theorem stopsWith_of_smokeProfile {options : SmokeOptions} (hconfigured : env.aliasConfigured = true)
    {e : PyExc} (hprofile : smokeProfile env options.profile = .error e) :
    StopsWith e (handleSmoke env options) := by
  intro s
  have hrun : (handleSmoke env options).run s = .error e s := by
    unfold handleSmoke
    rw [hprofile]
    simp only [hconfigured, Bool.not_true, Bool.false_eq_true, if_false]
    rfl
  rw [hrun]
  exact ⟨rfl, rfl, rfl⟩

/-- A run without a query opens the transactions of the checks of its target, and passes exactly when
the database answers them as they want. -/
theorem checks_handleSmoke {options : SmokeOptions} (hconfigured : env.aliasConfigured = true)
    (hquery : options.runQuery.getD [] = []) {profile : Profile} {table : PyStr}
    (htarget : smokeTarget env options = .ok (profile, table)) :
    Opens profile.role table [.readPath, .auditUnreadable, .writeRejected]
        (handleSmoke env options) ∧
      ReturnsIff (SmokePasses env.server profile.role table) (handleSmoke env options) := by
  obtain ⟨found, hprofile, htarget⟩ := bind_eq_ok.mp htarget
  obtain ⟨found', htable, htarget⟩ := bind_eq_ok.mp htarget
  obtain ⟨rfl, rfl⟩ := Prod.mk.inj (Except.ok.inj htarget)
  have hrun : ∀ s, (handleSmoke env options).run s = (smokeChecks env found found').run
      { s with stdout := s.stdout ++ [announcement found] } := by
    intro s
    rw [run_handleSmoke_checks hconfigured hquery hprofile, htable]
    rfl
  constructor
  · intro s
    rw [hrun]
    exact opens_smokeChecks found found' _
  · intro s
    rw [hrun]
    exact returnsIff_smokeChecks found found' _

/-- Without a profile or a table a run only announces itself. -/
theorem stopsWith_of_smokeTarget {options : SmokeOptions} (hconfigured : env.aliasConfigured = true)
    (hquery : options.runQuery.getD [] = []) {e : PyExc}
    (htarget : smokeTarget env options = .error e) : StopsWith e (handleSmoke env options) := by
  cases hprofile : smokeProfile env options.profile with
  | error e' =>
    obtain rfl : e' = e := by simpa [smokeTarget, hprofile, bind, Except.bind] using htarget
    exact stopsWith_of_smokeProfile hconfigured hprofile
  | ok profile =>
    cases htable : smokeTable env profile options.table with
    | ok table => simp [smokeTarget, hprofile, htable, bind, Except.bind, pure, Except.pure] at htarget
    | error e' =>
      obtain rfl : e' = e := by
        simpa [smokeTarget, hprofile, htable, bind, Except.bind] using htarget
      intro s
      rw [run_handleSmoke_checks hconfigured hquery hprofile, htable]
      exact ⟨rfl, rfl, rfl⟩

/-- What `_run_query` raises for what `run_query` raised. -/
def smokeError : PyExc → PyExc
  | .executorMisconfigured text => commandError text
  | e => e

/-- A query is run once, as the process's. -/
structure RunsQuery (env : SmokeEnv) (q : QueryCall) (x : Smoking Unit) (s : SmokeState) : Prop where
  transactions : (finalState (x.run s)).transactions = s.transactions
  world : (finalState (x.run s)).world = finalState ((runQuery env.toExecutorEnv q).run s.world)
  outcome_eq : outcome (x.run s) =
    match outcome ((runQuery env.toExecutorEnv q).run s.world) with
    | .ok _ => .ok ()
    | .error e => .error (smokeError e)

omit [UnicodeDatabase] in
theorem run_inProcess {α : Type} (x : Py α) (s : SmokeState) :
    (inProcess x).run s =
      match x.run s.world with
      | .ok a world => .ok a { s with world := world }
      | .error e world => .error e { s with world := world } := by
  show inProcess x s = _
  unfold inProcess
  cases x.run s.world <;> rfl

omit [UnicodeDatabase] in
theorem run_forM_say (lines : List PyStr) (s : SmokeState) :
    (forM lines say).run s = .ok ⟨⟩ { s with stdout := s.stdout ++ lines } := by
  induction lines generalizing s with
  | nil => simp
  | cons line rest ih =>
    have hfirst : (say line).run s = .ok () { s with stdout := s.stdout ++ [line] } := rfl
    rw [List.forM_cons, EStateM.run_bind, hfirst]
    refine (ih _).trans ?_
    simp

/-- `_run_query` runs the query of its user. -/
theorem runsQuery_smokeRunQuery {options : SmokeOptions} {profile : Profile} {user : User}
    (huser : attributedUser env options.asUser = .ok user) (rawSql : PyStr) (s : SmokeState) :
    RunsQuery env (smokeCall options user profile rawSql)
      (smokeRunQuery env options profile rawSql) s := by
  have hrun : (smokeRunQuery env options profile rawSql).run s =
      match (runQuery env.toExecutorEnv (smokeCall options user profile rawSql)).run s.world with
      | .ok result world => .ok ⟨⟩ { s with
          world := world, stdout := s.stdout ++ env.resultLines user result }
      | .error e world => .error (smokeError e) { s with world := world } := by
    unfold smokeRunQuery
    rw [huser, EStateM.run_bind, run_call_ok]
    simp only [EStateM.run_bind, run_catching, run_inProcess]
    cases (runQuery env.toExecutorEnv (smokeCall options user profile rawSql)).run s.world with
    | ok result world => exact run_forM_say _ _
    | error e world => cases e <;> rfl
  cases hquery : (runQuery env.toExecutorEnv (smokeCall options user profile rawSql)).run
      s.world with
  | ok result world =>
    rw [hquery] at hrun
    exact ⟨by rw [hrun]; rfl, by rw [hrun, hquery]; rfl, by rw [hrun, hquery]; rfl⟩
  | error e world =>
    rw [hquery] at hrun
    exact ⟨by rw [hrun]; rfl, by rw [hrun, hquery]; rfl, by rw [hrun, hquery]; rfl⟩

/-- A run with a query runs it for its profile and its user. -/
theorem runsQuery_handleSmoke {options : SmokeOptions} (hconfigured : env.aliasConfigured = true)
    {rawSql : PyStr} (hrawSql : rawSql ≠ []) (hquery : options.runQuery = some rawSql)
    {profile : Profile} {user : User} (htarget : queryTarget env options = .ok (profile, user))
    (s : SmokeState) :
    RunsQuery env (smokeCall options user profile rawSql) (handleSmoke env options) s := by
  obtain ⟨found, hprofile, htarget⟩ := bind_eq_ok.mp htarget
  obtain ⟨found', huser, htarget⟩ := bind_eq_ok.mp htarget
  obtain ⟨rfl, rfl⟩ := Prod.mk.inj (Except.ok.inj htarget)
  have hrun := run_handleSmoke_query hconfigured hrawSql hquery hprofile s
  obtain ⟨htransactions, hworld, houtcome⟩ := @runsQuery_smokeRunQuery _ env options found found'
    huser rawSql { s with stdout := s.stdout ++ [announcement found] }
  exact ⟨by rw [hrun]; exact htransactions, by rw [hrun]; exact hworld,
    by rw [hrun]; exact houtcome⟩

/-- Without a profile or a user a run with a query only announces itself. -/
theorem stopsWith_of_queryTarget {options : SmokeOptions} (hconfigured : env.aliasConfigured = true)
    {rawSql : PyStr} (hrawSql : rawSql ≠ []) (hquery : options.runQuery = some rawSql) {e : PyExc}
    (htarget : queryTarget env options = .error e) : StopsWith e (handleSmoke env options) := by
  cases hprofile : smokeProfile env options.profile with
  | error e' =>
    obtain rfl : e' = e := by simpa [queryTarget, hprofile, bind, Except.bind] using htarget
    exact stopsWith_of_smokeProfile hconfigured hprofile
  | ok profile =>
    cases huser : attributedUser env options.asUser with
    | ok user => simp [queryTarget, hprofile, huser, bind, Except.bind, pure, Except.pure] at htarget
    | error e' =>
      obtain rfl : e' = e := by
        simpa [queryTarget, hprofile, huser, bind, Except.bind] using htarget
      intro s
      rw [run_handleSmoke_query hconfigured hrawSql hquery hprofile]
      unfold smokeRunQuery
      rw [huser]
      exact ⟨rfl, rfl, rfl⟩

end Smoked

/-! ## The session that is compared -/

/-- The database shows the session it is in. -/
structure Shows (server : SmokeServer) (check : SmokeCheck) (s : SessionState) : Prop where
  currentUser : settingAnswer server check (lit "SELECT current_user") = .ok s.currentUser
  gucs : ∀ guc ∈ expectedSessionGucs,
    settingAnswer server check (lit "SHOW " ++ guc.1) = .ok (s.setting guc.1)

/-- What the command compares is the drift of the session. -/
theorem driftAnswer_of_shows {server : SmokeServer} {check : SmokeCheck} {s : SessionState}
    (h : Shows server check s) (role : PyStr) :
    driftAnswer server check role = .ok (sessionDrift s role) := by
  have hgucs : expectedSessionGucs.mapM (fun guc =>
      (fun actual => if actual ≠ guc.2 then some (guc.1, guc.2, actual) else none) <$>
        settingAnswer server check (lit "SHOW " ++ guc.1)) =
      .ok (expectedSessionGucs.map fun guc =>
        if s.setting guc.1 ≠ guc.2 then some (guc.1, guc.2, s.setting guc.1) else none) := by
    rw [mapM_eq_ok_iff, List.forall₂_map_right_iff, List.forall₂_same]
    intro guc hguc
    rw [h.gucs guc hguc]
    rfl
  unfold driftAnswer
  rw [h.currentUser, ok_bind, hgucs, ok_bind, List.filterMap_map]
  rfl

/-- The opening statements take the role their word denotes, and set the guards. -/
theorem sessionDrift_opened_eq_nil_iff [UnicodeDatabase] {rules : NameRules} {role name : PyStr}
    (hrole : rules.unquoted role = some name) (s : SessionState) :
    sessionDrift (sessionAfter rules s (openingStatements role)) role = [] ↔ name = role := by
  have hentered : (enterReadonlySession (fun _ => .ok ()) role .none).run [] =
      .ok () (openingStatements role) := rfl
  have hdistinct : HookResult.none.DistinctNames := List.Pairwise.nil
  have hexact := setsExactly_of_enterReadonlySession hrole s hdistinct hentered
  have hguards : expectedSessionGucs.filterMap (fun guc =>
      if (sessionAfter rules s (openingStatements role)).setting guc.1 ≠ guc.2 then
        some (guc.1, guc.2, (sessionAfter rules s (openingStatements role)).setting guc.1)
      else none) = [] := by
    rw [List.filterMap_eq_nil_iff]
    intro guc hguc
    rw [hexact.guards guc hguc, if_neg (by simp)]
  unfold sessionDrift
  rw [hguards, hexact.currentUser]
  by_cases hname : name = role
  · simp [hname]
  · simp [hname]

/-! ## The command as a whole -/

/-- What a run of the command means. -/
structure SmokeMeans [UnicodeDatabase] (env : SmokeEnv) (options : SmokeOptions) : Prop where
  /-- Without the alias it says so and passes. -/
  skips : env.aliasConfigured = false → ∀ s,
    (handleSmoke env options).run s = .ok () { s with stdout := s.stdout ++ [skipLine env] }
  /-- With the alias and without a query, it runs the checks of its profile and table: in their
  order, each sends its own statements only, and just the read path may be committed, whatever the
  database answers; it leaves the process alone, and passes exactly when the database answers each
  check as it wants.  Without a profile or a table it fails and sends nothing. -/
  checks : env.aliasConfigured = true → options.runQuery.getD [] = [] →
    (∀ profile table, smokeTarget env options = .ok (profile, table) →
      Opens profile.role table [.readPath, .auditUnreadable, .writeRejected]
          (handleSmoke env options) ∧
        ReturnsIff (SmokePasses env.server profile.role table) (handleSmoke env options)) ∧
      ∀ e, smokeTarget env options = .error e → StopsWith e (handleSmoke env options)
  /-- On a database that shows its session, the drift it finds is that of the session, and there is
  none exactly when the name of the role is the one it denotes without quotes. -/
  compares : ∀ (rules : NameRules) (s : SessionState) (role name : PyStr),
    rules.unquoted role = some name →
      Shows env.server .readPath (sessionAfter rules s (openingStatements role)) →
        driftAnswer env.server .readPath role =
            .ok (sessionDrift (sessionAfter rules s (openingStatements role)) role) ∧
          (driftAnswer env.server .readPath role = .ok [] ↔ name = role)
  /-- With the alias and a query, it runs no check, and does to the process what `run_query` does for
  its profile and its user; it passes exactly when `run_query` returns.  Without a profile or a user
  it fails and does nothing. -/
  query : env.aliasConfigured = true → ∀ rawSql, rawSql ≠ [] → options.runQuery = some rawSql →
    (∀ profile user, queryTarget env options = .ok (profile, user) → ∀ s,
      RunsQuery env (smokeCall options user profile rawSql) (handleSmoke env options) s) ∧
      ∀ e, queryTarget env options = .error e → StopsWith e (handleSmoke env options)

/-- A database in which the role of the example profile is set up. -/
def exampleSmokeServer : SmokeServer where
  begin _ := .ok ()
  execute _ statement :=
    if statement = selectFrom auditTable then
      .error (.databaseError (lit "permission denied") (some (lit "42501")))
    else if statement = insertInto (lit "notes") then
      .error (.databaseError (lit "read-only transaction") (some (lit "25006")))
    else .ok ()
  fetchone _ statement :=
    match expectedSessionGucs.find? fun guc => statement.sql = lit "SHOW " ++ guc.1 with
    | some guc => .ok (some ⟨.ok guc.2, false⟩)
    | none => .ok (some ⟨.ok (lit "mcp_readonly_role"), statement.sql = lit "SELECT 1"⟩)
  fetchall _ _ := .ok ()
  commit _ := .ok ()

/-- The command on that database. -/
def exampleSmokeEnv : SmokeEnv where
  toExecutorEnv := exampleExecutorEnv (Sqlglot.on plainQuery (lit "SELECT x FROM notes")) fun _ => []
  server := exampleSmokeServer
  users := []
  className _ := lit "ProgrammingError"
  resultLines _ _ := []

theorem readPathOk_exampleSmokeServer :
    ReadPathOk exampleSmokeServer (lit "mcp_readonly_role") (lit "notes") where
  begun := rfl
  entered := by decide
  currentUser := rfl
  gucs := by decide
  selects := rfl
  one := ⟨_, rfl, rfl⟩
  reads := rfl
  fetches := rfl
  commits := rfl

end McpSql
