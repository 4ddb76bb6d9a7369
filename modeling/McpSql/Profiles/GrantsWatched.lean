import McpSql.Profiles.GrantsCommand

/-!
# What the callers of the reconciler report

The check changes nothing and passes exactly when the grants are in sync; an application makes it
pass.  The signal changes nothing either: each profile that is skipped has its own warning and silences
no other, one that fails silences them all.
-/

namespace McpSql.Grants

open Python PyStr Effect KeyedLoop

/-! ## What the command and the signal leave alone -/

section Watching

variable [UnicodeDatabase] (server : GrantsServer) (profiles : List Profile)

/-- The command touches the database through the reconciler only. -/
theorem keeps_check : Keeps (fun s t => SameGrants s.db t.db) (handleGrants server profiles false) := by
  have hrefl : ∀ s : CommandState, SameGrants s.db s.db := fun s => SameGrants.refl s.db
  have htrans : ∀ s t u : CommandState, SameGrants s.db t.db → SameGrants t.db u.db →
      SameGrants s.db u.db := fun s t u => SameGrants.trans s.db t.db u.db
  have hwrite : ∀ line, Keeps (fun s t : CommandState => SameGrants s.db t.db) (writeLine line) :=
    fun line => .modify hrefl
  have hread : Keeps (fun s t : CommandState => SameGrants s.db t.db)
      (onDatabase (reconcileGrants server profiles true false)) := by
    intro s
    have hdry := keeps_reconcileGrants_dry server profiles true s.db
    show SameGrants s.db (finalState (onDatabase (reconcileGrants server profiles true false) s)).db
    unfold onDatabase
    cases hrun : (reconcileGrants server profiles true false).run s.db with
    | ok diff db =>
      rw [hrun] at hdry
      exact hdry
    | error e db =>
      rw [hrun] at hdry
      exact hdry
  unfold handleGrants
  refine .bind htrans (.catching htrans hread fun e => .raise hrefl _) fun result => ?_
  refine .bind htrans (.forM hrefl htrans fun entry _ => ?_) fun _ => ?_
  · exact .bind htrans (.call hrefl _) fun role => .forM hrefl htrans fun statement _ => hwrite _
  · split_ifs
    · exact hwrite _
    · exact hwrite _
    · exact fun s => hrefl s

/-- So does the signal, which never applies. -/
theorem keeps_audit (sender usingAlias : Option PyStr) :
    Keeps SameGrants (auditGrantsDriftAfterMigrate server profiles sender usingAlias) := by
  have hlog : ∀ record, Keeps SameGrants (logRecord record) :=
    fun record => .modify fun s => ⟨rfl, rfl⟩
  unfold auditGrantsDriftAfterMigrate
  split_ifs
  · exact .pure SameGrants.refl _
  · exact .pure SameGrants.refl _
  · refine .bind SameGrants.trans (.catching SameGrants.trans
      (.map some (keeps_reconcileGrants_dry server profiles false)) fun e => ?_) fun drift => ?_
    · exact .bind SameGrants.trans (hlog _) fun _ => .pure SameGrants.refl _
    · refine .forM SameGrants.refl SameGrants.trans fun found _ => ?_
      split_ifs
      · exact hlog _
      · exact .pure SameGrants.refl _

/-- The errors of the reconciler do not leave the signal. -/
theorem raisesOnly_audit (sender usingAlias : Option PyStr) :
    RaisesOnly (fun e => isGrantsReconcile e = false)
      (auditGrantsDriftAfterMigrate server profiles sender usingAlias) := by
  have hlog : ∀ record, RaisesOnly (fun e => isGrantsReconcile e = false) (logRecord record) :=
    fun record => .modify _
  unfold auditGrantsDriftAfterMigrate
  split_ifs
  · exact .pure _
  · exact .pure _
  · refine .bind ?_ fun drift => .forM fun found => ?_
    · intro s e h
      rw [run_catching] at h
      cases hrun : (some <$> reconcileGrants server profiles false false).run s with
      | ok diff t => simp [hrun] at h
      | error e' t =>
        by_cases hcaught : isGrantsReconcile e' = true
        · simp only [hrun, hcaught, if_true] at h
          exact absurd h (by simp [logRecord])
        · simp only [hrun, hcaught] at h
          obtain rfl : e' = e := by simpa using h
          simpa using hcaught
    · split_ifs
      · exact hlog _
      · exact .pure _

end Watching

/-! ## What the signal reports -/

section Reports

variable [UnicodeDatabase] {server : GrantsServer} {profiles : List Profile}

/-- The record of a skipped profile. -/
def skipWarning (p : Profile) (failure : EnvFailure) : LogRecord :=
  ⟨.warning, lit "MCP grants reconcile skipped: " ++ failure.message p⟩

/-- No error in the code or in the database keeps the profile from being compared or skipped. -/
def Sound (server : GrantsServer) (p : Profile) : Prop :=
  (∃ tables, Ready server p tables) ∨ ∃ failure, Skips server p failure

theorem Skips.not_ready {p : Profile} {failure : EnvFailure} (h : Skips server p failure)
    {tables : Finset PyStr} (hready : Ready server p tables) : False := by
  have hsame := h.environment.symm.trans hready.environment
  exact absurd (Except.ok.inj hsame) (by simp)

/-- A failure of the environment is the only one. -/
theorem Skips.unique {p : Profile} {failure other : EnvFailure} (h : Skips server p failure)
    (h' : Skips server p other) : failure = other :=
  Option.some.inj (Except.ok.inj (h.environment.symm.trans h'.environment))

/-- Some profile that is compared does not hold what it declares. -/
def SomeDrifts (server : GrantsServer) (profiles : List Profile) (grants : PyStr → Finset PyStr) :
    Prop :=
  ∃ p ∈ profiles, ∃ tables, Ready server p tables ∧ grants p.role ≠ tables

/-- The lenient comparison of all profiles: each is compared or has its warning, whatever the others
are. -/
theorem run_mapM_lenient (h : ∀ p ∈ profiles, Sound server p) (s : GrantsState) :
    ∃ drifts skipped, (profiles.mapM (reconcileProfile server false false)).run s =
        .ok drifts { s with log := s.log ++ skipped } ∧
      profiles.length = drifts.length ∧
      (∀ record, record ∈ skipped ↔
        ∃ p ∈ profiles, ∃ failure, Skips server p failure ∧ record = skipWarning p failure) ∧
      ((∃ drift ∈ drifts, drift.changed = true) ↔ SomeDrifts server profiles s.grants) := by
  induction profiles generalizing s with
  | nil => exact ⟨[], [], by simp, rfl, by simp, by simp [SomeDrifts]⟩
  | cons p rest ih =>
    have hrest : ∀ q ∈ rest, Sound server q := fun q hq => h q (List.mem_cons_of_mem _ hq)
    rcases h p List.mem_cons_self with ⟨tables, hready⟩ | ⟨failure, hskips⟩
    · obtain ⟨drifts, skipped, hrun, hlength, hskipped, hdrifts⟩ := ih hrest s
      refine ⟨driftOf tables (s.grants p.role) :: drifts, skipped, ?_, by simp [hlength], ?_, ?_⟩
      · rw [List.mapM_cons, EStateM.run_bind, run_reconcileProfile_ready hready]
        simp only [Bool.false_and, Bool.false_eq_true, if_false, EStateM.run_bind, hrun,
          EStateM.run_pure]
      · intro record
        rw [hskipped]
        constructor
        · rintro ⟨q, hq, hrecord⟩
          exact ⟨q, List.mem_cons_of_mem _ hq, hrecord⟩
        · rintro ⟨q, hq, failure, hskips, hrecord⟩
          rcases List.mem_cons.mp hq with rfl | hq
          · exact (hskips.not_ready hready).elim
          · exact ⟨q, hq, failure, hskips, hrecord⟩
      · have hunique : ∀ tables', Ready server p tables' → tables' = tables := fun tables' h' =>
          Except.ok.inj (h'.declared.symm.trans hready.declared)
        have hhead : (driftOf tables (s.grants p.role)).changed = true ↔
            ∃ tables', Ready server p tables' ∧ s.grants p.role ≠ tables' := by
          rw [changed_driftOf_iff]
          constructor
          · exact fun hne => ⟨tables, hready, hne⟩
          · rintro ⟨tables', hready', hne⟩
            rwa [hunique tables' hready'] at hne
        unfold SomeDrifts at hdrifts ⊢
        simp only [List.exists_mem_cons_iff, hhead, hdrifts]
    · obtain ⟨drifts, skipped, hrun, hlength, hskipped, hdrifts⟩ :=
        ih hrest { s with log := s.log ++ [skipWarning p failure] }
      refine ⟨{ skippedReason := failure.reason } :: drifts, skipWarning p failure :: skipped, ?_,
        by simp [hlength], ?_, ?_⟩
      · have hfirst : (reconcileProfile server false false p).run s =
            .ok { skippedReason := failure.reason }
              { s with log := s.log ++ [skipWarning p failure] } :=
          run_reconcileProfile_skips hskips false false s
        rw [List.mapM_cons, EStateM.run_bind, hfirst]
        simp only [EStateM.run_bind, hrun, EStateM.run_pure, List.append_assoc,
          List.singleton_append]
      · intro record
        rw [List.mem_cons, hskipped]
        constructor
        · rintro (rfl | ⟨q, hq, hrecord⟩)
          · exact ⟨p, List.mem_cons_self, failure, hskips, rfl⟩
          · exact ⟨q, List.mem_cons_of_mem _ hq, hrecord⟩
        · rintro ⟨q, hq, failure', hskips', hrecord⟩
          rcases List.mem_cons.mp hq with rfl | hq
          · exact Or.inl (by rw [hrecord, hskips'.unique hskips])
          · exact Or.inr ⟨q, hq, failure', hskips', hrecord⟩
      · have hhead : ¬∃ tables, Ready server p tables ∧ s.grants p.role ≠ tables :=
          fun ⟨_, hready, _⟩ => hskips.not_ready hready
        unfold SomeDrifts at hdrifts ⊢
        simp only [List.exists_mem_cons_iff, hdrifts, hhead, false_or]
        simp [ProfileDrift.changed]

/-- The profile raises an error in the code or of the database, whatever the grants are. -/
def Fails (server : GrantsServer) (p : Profile) (e : PyExc) : Prop :=
  ∀ strict apply s, (reconcileProfile server strict apply p).run s = .error e s

/-- How far the comparison of the signal gets: past all profiles, or to the first that fails. -/
inductive Reaches (server : GrantsServer) (profiles : List Profile) :
    List Profile → Option PyExc → Prop
  | all (sound : ∀ p ∈ profiles, Sound server p) : Reaches server profiles profiles none
  | stops (front back : List Profile) (p : Profile) (e : PyExc) (split : profiles = front ++ p :: back)
      (sound : ∀ q ∈ front, Sound server q) (fails : Fails server p e) :
      Reaches server profiles front (some e)

/-- It gets to an end. -/
theorem reaches_exists (server : GrantsServer) (profiles : List Profile) :
    ∃ passed stop, Reaches server profiles passed stop := by
  induction profiles with
  | nil => exact ⟨[], none, .all (by simp)⟩
  | cons p rest ih =>
    have hcons : Sound server p → ∃ passed stop, Reaches server (p :: rest) passed stop := by
      intro hsound
      obtain ⟨passed, stop, hreaches⟩ := ih
      rcases hreaches with ⟨hrest⟩ | ⟨front, back, q, e, rfl, hfront, hfails⟩
      · exact ⟨p :: rest, none, .all (List.forall_mem_cons.mpr ⟨hsound, hrest⟩)⟩
      · exact ⟨p :: passed, some e, .stops (p :: passed) back q e rfl
          (List.forall_mem_cons.mpr ⟨hsound, hfront⟩) hfails⟩
    rcases reconcileProfile_cases server p with hready | hskips | ⟨e, hfails⟩
    · exact hcons (Or.inl hready)
    · exact hcons (Or.inr hskips)
    · exact ⟨[], some e, .stops [] rest p e rfl (by simp) hfails⟩

/-- Whose migrate the signal is for: the package's, on the default database. -/
def Concerns (sender usingAlias : Option PyStr) : Prop :=
  sender = some (lit "mcp_sql") ∧
    (usingAlias.any fun alias' => alias' ≠ [] && alias' ≠ lit "default") = false

theorem run_audit_concerned {sender usingAlias : Option PyStr} (h : Concerns sender usingAlias)
    (s : GrantsState) :
    (auditGrantsDriftAfterMigrate server profiles sender usingAlias).run s =
      match (reconcileGrants server profiles false false).run s with
      | .ok diff t => .ok () { t with log := t.log ++
          if diff.changed then [driftWarning diff] else [] }
      | .error e t =>
        if isGrantsReconcile e then .ok () { t with log := t.log ++ [failedRecord] }
        else .error e t := by
  obtain ⟨rfl, halias⟩ := h
  unfold auditGrantsDriftAfterMigrate
  rw [if_neg (not_not.mpr rfl), if_neg (Bool.not_eq_true _ ▸ halias), EStateM.run_bind, run_catching,
    run_map]
  cases (reconcileGrants server profiles false false).run s with
  | ok diff t =>
    simp only [Option.toList_some, List.forM_cons, List.forM_nil]
    split_ifs <;> simp [logRecord]
  | error e t =>
    by_cases hcaught : isGrantsReconcile e = true
    · simp [hcaught, logRecord]
    · simp [hcaught]

/-- The skipped profiles among some, each with its record. -/
def SkipsOf (server : GrantsServer) (passed : List Profile) (skipped : List LogRecord) : Prop :=
  ∀ record, record ∈ skipped ↔
    ∃ p ∈ passed, ∃ failure, Skips server p failure ∧ record = skipWarning p failure

/-- What the signal has done when its comparison has passed some profiles and then stopped, if it
did: a warning for each skipped one, and one for drift if it got past all; at an error of the
reconciler, the record of its failure; any other error goes on. -/
theorem run_audit_reaches (halias : verifyDefaultAlias server = .ok ()) {passed : List Profile}
    {stop : Option PyExc} (hreaches : Reaches server profiles passed stop)
    {sender usingAlias : Option PyStr} (h : Concerns sender usingAlias) (s : GrantsState) :
    ∃ skipped diff, SkipsOf server passed skipped ∧
      (stop = none → (diff.changed = true ↔ SomeDrifts server profiles s.grants)) ∧
      (auditGrantsDriftAfterMigrate server profiles sender usingAlias).run s =
        match stop with
        | none => .ok () { s with log := s.log ++ skipped ++
            if diff.changed then [driftWarning diff] else [] }
        | some e =>
          if isGrantsReconcile e then .ok () { s with log := s.log ++ skipped ++ [failedRecord] }
          else .error e { s with log := s.log ++ skipped } := by
  rcases hreaches with ⟨hsound⟩ | ⟨front, back, p, e, rfl, hfront, hfails⟩
  · obtain ⟨drifts, skipped, hruns, hlength, hskipped, hdrifts⟩ := run_mapM_lenient hsound s
    refine ⟨skipped, ⟨(profiles.map Profile.name).zip drifts⟩, hskipped, fun _ => ?_, ?_⟩
    · rw [← hdrifts, ← Bool.not_eq_false, changed_eq_false_iff hlength]
      simp
    · rw [run_audit_concerned h, run_reconcileGrants, halias]
      simp only [hruns]
  · obtain ⟨drifts, skipped, hruns, -, hskipped, -⟩ := run_mapM_lenient hfront s
    have hloop : ((passed ++ p :: back).mapM (reconcileProfile server false false)).run s =
        .error e { s with log := s.log ++ skipped } := by
      rw [List.mapM_append, EStateM.run_bind, hruns]
      simp only [List.mapM_cons, EStateM.run_bind, hfails false false]
    refine ⟨skipped, ⟨[]⟩, hskipped, fun hnone => absurd hnone (by simp), ?_⟩
    rw [run_audit_concerned h, run_reconcileGrants, halias]
    simp only [hloop]

/-- On the wrong alias the signal reports that the comparison failed, and nothing else. -/
theorem run_audit_offDefault (halias : verifyDefaultAlias server ≠ .ok ())
    {sender usingAlias : Option PyStr} (h : Concerns sender usingAlias) (s : GrantsState) :
    (auditGrantsDriftAfterMigrate server profiles sender usingAlias).run s =
      .ok () { s with log := s.log ++ [failedRecord] } := by
  rw [run_audit_concerned h, run_reconcileGrants]
  unfold verifyDefaultAlias at halias ⊢
  by_cases hname : server.aliasName = lit "default"
  · rw [if_pos hname] at halias
    exact absurd rfl halias
  · rw [if_neg hname]
    rfl

/-- A profile that fails is neither compared nor skipped. -/
theorem Fails.not_sound {p : Profile} {e : PyExc} (h : Fails server p e) : ¬Sound server p := by
  let s : GrantsState := ⟨fun _ => ∅, [], []⟩
  have herror := h false false s
  rintro (⟨tables, hready⟩ | ⟨failure, hskips⟩)
  · rw [run_reconcileProfile_ready hready] at herror
    simp at herror
  · rw [run_reconcileProfile_skips hskips] at herror
    simp at herror

/-- The record of drift is no other. -/
theorem driftWarning_ne_skipWarning (diff : DriftDiff) (p : Profile) (failure : EnvFailure) :
    driftWarning diff ≠ skipWarning p failure := by
  intro heq
  have hdrift : (driftWarning diff).message.take 12 = lit "MCP grants D" := rfl
  have hskip : (skipWarning p failure).message.take 12 = lit "MCP grants r" := rfl
  rw [heq, hskip] at hdrift
  exact absurd hdrift (by decide)

omit [UnicodeDatabase] in
theorem driftWarning_ne_failedRecord (diff : DriftDiff) : driftWarning diff ≠ failedRecord :=
  fun heq => LogLevel.noConfusion (congrArg LogRecord.level heq)

/-- The records of skipped profiles report no drift. -/
theorem SkipsOf.driftWarning_notMem {passed : List Profile} {skipped : List LogRecord}
    (h : SkipsOf server passed skipped) (diff : DriftDiff) : driftWarning diff ∉ skipped := by
  intro hmem
  obtain ⟨p, -, failure, -, heq⟩ := (h _).mp hmem
  exact driftWarning_ne_skipWarning diff p failure heq

/-- The signal warns of drift exactly when it is on its alias, no profile fails, and one that is
compared drifts. -/
theorem warned_iff {sender usingAlias : Option PyStr} (h : Concerns sender usingAlias)
    (s : GrantsState) :
    ∃ records, (finalState ((auditGrantsDriftAfterMigrate server profiles sender usingAlias).run
        s)).log = s.log ++ records ∧
      ((∃ diff, driftWarning diff ∈ records) ↔ verifyDefaultAlias server = .ok () ∧
        (∀ p ∈ profiles, Sound server p) ∧ SomeDrifts server profiles s.grants) := by
  by_cases halias : verifyDefaultAlias server = .ok ()
  · obtain ⟨passed, stop, hreaches⟩ := reaches_exists server profiles
    obtain ⟨skipped, diff, hskipped, hdrifts, hrun⟩ := run_audit_reaches halias hreaches h s
    rw [hrun]
    simp only [halias, true_and]
    rcases hreaches with ⟨hsound⟩ | ⟨front, back, p, e, rfl, -, hfails⟩
    · refine ⟨skipped ++ if diff.changed then [driftWarning diff] else [],
        List.append_assoc _ _ _, ?_⟩
      rw [← hdrifts rfl]
      simp only [List.mem_append, hskipped.driftWarning_notMem, false_or]
      refine ⟨?_, fun ⟨_, hchanged⟩ => ⟨diff, by simp [hchanged]⟩⟩
      rintro ⟨other, hmem⟩
      refine ⟨hsound, ?_⟩
      by_contra hchanged
      simp [hchanged] at hmem
    · have hunsound : ¬((∀ q ∈ passed ++ p :: back, Sound server q) ∧
          SomeDrifts server (passed ++ p :: back) s.grants) :=
        fun hboth => hfails.not_sound (hboth.1 p (by simp))
      by_cases hcaught : isGrantsReconcile e = true
      · refine ⟨skipped ++ [failedRecord], by simp [hcaught], iff_of_false ?_ hunsound⟩
        rintro ⟨other, hmem⟩
        rcases List.mem_append.mp hmem with hskip | hfailed
        · exact hskipped.driftWarning_notMem other hskip
        · exact driftWarning_ne_failedRecord other (List.mem_singleton.mp hfailed)
      · refine ⟨skipped, by simp [hcaught], iff_of_false ?_ hunsound⟩
        rintro ⟨other, hmem⟩
        exact hskipped.driftWarning_notMem other hmem
  · rw [run_audit_offDefault halias h]
    refine ⟨[failedRecord], rfl, iff_of_false ?_ fun hall => halias hall.1⟩
    rintro ⟨other, hmem⟩
    exact driftWarning_ne_failedRecord other (List.mem_singleton.mp hmem)

end Reports

/-! ## The two callers -/

/-- The counts of a result are those of its statements. -/
theorem length_allStatements {profiles : List Profile} {drifts : List ProfileDrift}
    (hlength : profiles.length = drifts.length) :
    let diff : DriftDiff := ⟨(profiles.map Profile.name).zip drifts⟩
    (allStatements profiles drifts).length = diff.grantedCount + diff.revokedCount := by
  induction profiles generalizing drifts with
  | nil => simp [allStatements, DriftDiff.grantedCount, DriftDiff.revokedCount]
  | cons p rest ih =>
    obtain ⟨drift, others, rfl⟩ := List.exists_cons_of_length_eq_add_one hlength.symm
    have hothers : rest.length = others.length := by simpa using hlength
    have hrest := ih hothers
    unfold allStatements DriftDiff.grantedCount DriftDiff.revokedCount at hrest ⊢
    simp only [List.zip_cons_cons, List.flatMap_cons, List.length_append, List.map_cons,
      List.sum_cons, driftStatements, List.length_map] at hrest ⊢
    omega

/-- What the command and the signal do with the reconciler, whatever the database answers. -/
structure Watches [UnicodeDatabase] (server : GrantsServer) (profiles : List Profile) : Prop where
  /-- The check changes no grant and sends nothing. -/
  check : Keeps (fun s t => SameGrants s.db t.db) (handleGrants server profiles false)
  /-- The check passes exactly when the grants are in sync. -/
  passes : ∀ s, (∃ t, (handleGrants server profiles false).run s = .ok () t) ↔
    InSync server profiles s.db.grants
  /-- For roles that denote themselves without quotes: an application that returns has sent what it
  prints and counts, which is what the check would have printed, and leaves the grants in sync. -/
  applied : (∀ p ∈ profiles, server.unquoted p.role = p.role) → ∀ s t,
    (handleGrants server profiles true).run s = .ok () t → ∃ statements diff,
      t.db.sent = s.db.sent ++ statements ∧
        statements.length = diff.grantedCount + diff.revokedCount ∧
        t.stdout = s.stdout ++ statements.map GrantStatement.sql ++
          [if statements = [] then inSyncLine else appliedLine diff] ∧
        (handleGrants server profiles false).run s =
          (if statements = [] then .ok () { s with stdout := s.stdout ++ [inSyncLine] }
          else .error (commandError (driftMessage diff))
            { s with stdout := s.stdout ++ statements.map GrantStatement.sql }) ∧
        InSync server profiles t.db.grants
  /-- The signal changes no grant, sends nothing, and none of the reconciler's errors leaves it. -/
  signal : ∀ sender usingAlias,
    Keeps SameGrants (auditGrantsDriftAfterMigrate server profiles sender usingAlias) ∧
      RaisesOnly (fun e => isGrantsReconcile e = false)
        (auditGrantsDriftAfterMigrate server profiles sender usingAlias)
  /-- After a migrate of the package on the default database it warns of drift exactly when it is on
  its alias, no profile fails, and one that is compared drifts: the profiles that are skipped silence
  no other, one that fails silences them all. -/
  warns : ∀ sender usingAlias s, Concerns sender usingAlias → ∃ records,
    (finalState ((auditGrantsDriftAfterMigrate server profiles sender usingAlias).run s)).log =
        s.log ++ records ∧
      ((∃ diff, driftWarning diff ∈ records) ↔ verifyDefaultAlias server = .ok () ∧
        (∀ p ∈ profiles, Sound server p) ∧ SomeDrifts server profiles s.grants)
  /-- On its alias it goes through the profiles up to the first that fails: each that is skipped has
  its own warning, and a failure ends it with one record or goes on. -/
  reports : verifyDefaultAlias server = .ok () → ∃ passed stop,
    Reaches server profiles passed stop ∧ ∀ sender usingAlias s, Concerns sender usingAlias →
      ∃ skipped, ∃ diff : DriftDiff, SkipsOf server passed skipped ∧
        (stop = none → (diff.changed = true ↔ SomeDrifts server profiles s.grants)) ∧
        (auditGrantsDriftAfterMigrate server profiles sender usingAlias).run s =
          match stop with
          | none => .ok () { s with log := s.log ++ skipped ++
              if diff.changed then [driftWarning diff] else [] }
          | some e =>
            if isGrantsReconcile e then .ok () { s with log := s.log ++ skipped ++ [failedRecord] }
            else .error e { s with log := s.log ++ skipped }

section Callers

variable [UnicodeDatabase] {server : GrantsServer} {profiles : List Profile}

/-- An application that returns has brought the grants in sync, and the check would have found the
same drift. -/
theorem applied_of_run (hroles : (profiles.map Profile.role).Nodup)
    (hexact : ∀ p ∈ profiles, server.unquoted p.role = p.role) {s t : CommandState} {u : Unit}
    (h : (handleGrants server profiles true).run s = .ok u t) :
    ∃ drifts db, profiles.length = drifts.length ∧
      (reconcileGrants server profiles true true).run s.db =
        .ok ⟨(profiles.map Profile.name).zip drifts⟩ db ∧
      (reconcileGrants server profiles true false).run s.db =
        .ok ⟨(profiles.map Profile.name).zip drifts⟩ s.db ∧
      db.sent = s.db.sent ++ allStatements profiles drifts ∧ InSync server profiles db.grants := by
  obtain ⟨diff, db, hrun⟩ := reconciled_of_run_handleGrants h
  obtain ⟨halias, drifts, rfl, hcompared⟩ := compared_of_run hroles hexact hrun
  obtain ⟨-, hdry, -⟩ := (reconcile_converges hroles hexact true true s.db).applied rfl rfl _ _ hrun
  refine ⟨drifts, db, hcompared.length_eq, hrun, hdry, ?_, halias, fun p hp => ?_⟩
  · simpa using sent_of_run_reconcileGrants hcompared.length_eq hrun
  · obtain ⟨drift, -, tables, hready, -, hafter⟩ := Raising.exists_of_forall₂_left hcompared hp
    rw [hafter]
    exact hready

end Callers

end McpSql.Grants
