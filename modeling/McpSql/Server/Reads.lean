import McpSql.Executor.SessionGuards
import McpSql.Parser.Whitelist
import McpSql.Server.AuditTrail

/-!
# What the read database is asked

Over a run of the server the read database is sent what the requests that are let in send: the
statements that open the session of their profile, and, once it is entered, at most one query of the
agent, which has passed the checks for that profile.
-/

namespace McpSql

open Python PyStr Effect GuardedRun Postgres Raising

/-! ## The statements of a session -/

/-- The statements that open a session of a role and bind a context under safe names. -/
def SessionOpened (role : PyStr) (sent : List Statement) : Prop :=
  ∃ entries : List (PyStr × PyStr), (∀ entry ∈ entries, isSafeContextName entry.1 = true) ∧
    sent = openingStatements role ++ entries.map setConfigStatement

/-- Such statements, perhaps broken off. -/
def SessionOpening (role : PyStr) (sent : List Statement) : Prop :=
  ∃ full, SessionOpened role full ∧ sent <+: full

/-- After these statements the session has the role and the guards, whatever it was before. -/
structure SessionGuarded (role : PyStr) (sent : List Statement) : Prop where
  currentUser : ∀ (rules : NameRules) (s : SessionState) (name : PyStr),
    rules.unquoted role = some name → (sessionAfter rules s sent).currentUser = name
  guards : ∀ (rules : NameRules) (s : SessionState), ∀ guc ∈ expectedSessionGucs,
    (sessionAfter rules s sent).setting guc.1 = guc.2

/-- A context under safe names leaves the role and the guards alone. -/
theorem SessionOpened.sessionGuarded {role : PyStr} {sent : List Statement}
    (h : SessionOpened role sent) : SessionGuarded role sent := by
  obtain ⟨entries, hsafe, rfl⟩ := h
  have hentries : ∀ entry ∈ entries, OrdinarySetting entry.1 := fun entry hentry =>
    ordinarySetting_of_isSafeContextName (hsafe entry hentry)
  have hsplit : ∀ (rules : NameRules) (s : SessionState),
      sessionAfter rules s (openingStatements role ++ entries.map setConfigStatement) =
        ((s.apply rules (.setRole role)).run rules
          (expectedSessionGucs.map fun entry => .set entry.1 entry.2)).run rules
            (entries.map fun entry => .set entry.1 entry.2) := by
    intro rules s
    rw [sessionAfter_entered, List.map_append]
    exact List.foldl_append
  refine ⟨fun rules s name hname => ?_, fun rules s guc hguc => ?_⟩
  · rw [hsplit, currentUser_run_set _ hentries,
      currentUser_run_set _ ordinarySetting_expectedSessionGucs, currentUser_apply_setRole _ hname]
  · have hother : ∀ entry ∈ entries, downcase entry.1 ≠ guc.1 := by
      intro entry hentry
      rw [downcase_of_isSafeContextName (hsafe entry hentry)]
      exact (guard_ne_of_isSafeContextName (hsafe entry hentry) guc hguc).symm
    have hset : ((s.apply rules (.setRole role)).run rules
        (expectedSessionGucs.map fun entry => .set entry.1 entry.2)).setting (downcase guc.1) =
          guc.2 :=
      setting_run_set_of_mem _ ordinarySetting_expectedSessionGucs (by decide) hguc
    rw [downcase_expectedSessionGucs guc hguc] at hset
    rw [hsplit, setting_run_set_of_ne _ hentries hother, hset]

/-- Entries under safe names are bound. -/
def BindsSafe (sent sent' : List Statement) : Prop :=
  ∃ entries : List (PyStr × PyStr), (∀ entry ∈ entries, isSafeContextName entry.1 = true) ∧
    sent' = sent ++ entries.map setConfigStatement

theorem BindsSafe.refl (sent : List Statement) : BindsSafe sent sent :=
  ⟨[], by simp, (List.append_nil _).symm⟩

theorem BindsSafe.trans (sent sent' sent'' : List Statement) (h : BindsSafe sent sent')
    (h' : BindsSafe sent' sent'') : BindsSafe sent sent'' := by
  obtain ⟨entries, hsafe, rfl⟩ := h
  obtain ⟨entries', hsafe', rfl⟩ := h'
  refine ⟨entries ++ entries', ?_, by simp⟩
  intro entry hentry
  rcases List.mem_append.mp hentry with hentry | hentry
  · exact hsafe entry hentry
  · exact hsafe' entry hentry

theorem bindsSafe_setContextItem (answer : Statement → Except PyExc Unit) {item : ContextItem}
    {name : PyStr} (hname : item.name = .str name) (hsafe : isSafeContextName name = true) :
    Keeps BindsSafe (setContextItem answer item) := by
  unfold setContextItem
  simp only [hname, pure_bind]
  refine .bind BindsSafe.trans (.call BindsSafe.refl _) fun value => ?_
  intro sent
  rw [finalState_execute]
  exact ⟨[(name, value)], by simpa using hsafe, rfl⟩

section Transcripts

variable [UnicodeDatabase]

/-- Whatever the context is, and wherever it breaks off, only safe names are bound. -/
theorem bindsSafe_setContext (answer : Statement → Except PyExc Unit) (context : HookResult) :
    Keeps BindsSafe (setContext answer context) := by
  rcases context with _ | items | ⟨typeName, truthy⟩
  · exact .pure BindsSafe.refl _
  · rcases items with _ | ⟨item, rest⟩
    · exact .pure BindsSafe.refl _
    · unfold setContext
      cases hchecked : validateSessionContext (.mapping (item :: rest)) with
      | error e =>
        simp only [hchecked]
        exact fun sent => BindsSafe.refl sent
      | ok u =>
        refine .bind BindsSafe.trans (.call BindsSafe.refl _) fun _ => ?_
        refine .forM BindsSafe.refl BindsSafe.trans fun entry hentry => ?_
        obtain ⟨name, hname, hsafe⟩ := safe_of_validateSessionContext hchecked entry hentry
        exact bindsSafe_setContextItem answer hname hsafe
  · cases truthy with
    | false => exact .pure BindsSafe.refl _
    | true =>
      exact Keeps.call BindsSafe.refl (validateSessionContext (.other typeName true))

/-- Entering a session opens it, or breaks off. -/
theorem opening_of_enterReadonlySession (answer : Statement → Except PyExc Unit) (role : PyStr)
    (context : HookResult) :
    (∃ sent, (enterReadonlySession answer role context).run [] = .ok () sent ∧
        SessionOpened role sent) ∨
      ∃ e sent, (enterReadonlySession answer role context).run [] = .error e sent ∧
        SessionOpening role sent := by
  rw [enterReadonlySession_eq, EStateM.run_bind]
  rcases run_forM_execute answer (openingStatements role) [] with hrun | ⟨e, pre, hpre, hrun⟩
  · obtain ⟨entries, hsafe, hsent⟩ := bindsSafe_setContext answer context
      ([] ++ openingStatements role)
    rw [hrun]
    rw [List.nil_append] at hsent ⊢
    show (∃ sent, (setContext answer context).run _ = _ ∧ _) ∨
      ∃ e sent, (setContext answer context).run _ = _ ∧ _
    cases hcontext : (setContext answer context).run (openingStatements role) with
    | ok u sent =>
      rw [hcontext] at hsent
      exact Or.inl ⟨sent, rfl, entries, hsafe, hsent⟩
    | error e sent =>
      rw [hcontext] at hsent
      exact Or.inr ⟨e, sent, rfl, sent, ⟨entries, hsafe, hsent⟩, List.prefix_rfl⟩
  · rw [hrun, List.nil_append]
    refine Or.inr ⟨e, pre, rfl, openingStatements role, ⟨[], by simp, by simp⟩, hpre⟩

/-- A read opens its session, and asks once it is entered. -/
theorem sent_of_readTransaction (connection : ReadConnection) (role : PyStr)
    (context : HookResult) (wrappedSql : PyStr) :
    let sent := finalState ((readTransaction connection role context wrappedSql).run [])
    SessionOpening role sent ∨
      ∃ opening, SessionOpened role opening ∧ sent = opening ++ [⟨wrappedSql, []⟩] := by
  intro sent
  have hread : sent = finalState ((call connection.begin >>= fun _ =>
      enterReadonlySession connection.execute role context >>= fun _ =>
        execute connection.execute ⟨wrappedSql, []⟩ >>= fun _ =>
          (call (connection.fetchall wrappedSql) >>= fun rawRows => call connection.commit >>=
            fun _ => pure (rawRows, (connection.description wrappedSql).getD []))).run []) := rfl
  rw [hread, EStateM.run_bind]
  cases connection.begin with
  | error e => exact Or.inl ⟨_, ⟨[], by simp, rfl⟩, List.nil_prefix⟩
  | ok u =>
    show SessionOpening role (finalState ((enterReadonlySession _ _ _ >>= _).run [])) ∨
      ∃ opening, SessionOpened role opening ∧
        finalState ((enterReadonlySession _ _ _ >>= _).run []) = _
    rw [EStateM.run_bind]
    rcases opening_of_enterReadonlySession connection.execute role context with
      ⟨opening, hrun, hopened⟩ | ⟨e, opening, hrun, hopening⟩
    · refine Or.inr ⟨opening, hopened, ?_⟩
      rw [hrun]
      -- what follows the query sends nothing
      rw [← finalState_execute connection.execute ⟨wrappedSql, []⟩ opening]
      apply finalState_bind_of_keeps
      intro _
      have htrans : ∀ a b c : List Statement, a = b → b = c → a = c := fun _ _ _ => Eq.trans
      refine .bind htrans (.call (fun _ => rfl) _) fun rawRows => ?_
      exact .bind htrans (.call (fun _ => rfl) _) fun _ => .pure (fun _ => rfl) _
    · rw [hrun]
      exact Or.inl hopening

/-! ## The transcript of a query -/

/-- The agent's SQL: the statement of its input, accepted for the profile of the call, with a
`LIMIT` injected that is within the hard limit. -/
structure QueryChecked (env : ExecutorEnv) (q : QueryCall) (sql : PyStr) (allowed : Finset PyStr)
    (parsed : ParsedQuery) (n : ℕ) : Prop where
  allowedTables : allowedTables env q.profile = .ok allowed
  statement : parseQuery env.sqlglot q.rawSql = .ok parsed.ast
  isQuery : parsed.ast.label.cls.isQuery = true
  accepted : Accepted parsed.ast allowed parsed.referencedTables env.settings.banSelectStar
  tables : parsed.referencedTables ⊆ allowed.image lower
  pos : 0 < n
  withinHardLimit : (n : ℤ) ≤ env.settings.limits.hardLimit
  limited : wrapSql env.sqlglot parsed.ast (n + 1) = .ok sql

/-- What a query sends: statements that open the session of its profile, and in a session that was
entered its own SQL. -/
inductive Reads (env : ExecutorEnv) (q : QueryCall) : List Statement → Prop
  | opening {sent : List Statement} (h : SessionOpening q.profile.role sent) : Reads env q sent
  | asked {opening : List Statement} {sql : PyStr} {allowed : Finset PyStr} {parsed : ParsedQuery}
      {n : ℕ} (hopened : SessionOpened q.profile.role opening)
      (hguarded : SessionGuarded q.profile.role opening)
      (hchecked : QueryChecked env q sql allowed parsed n) :
      Reads env q (opening ++ [⟨sql, []⟩])

variable {env : ExecutorEnv} {q : QueryCall}

theorem reads_nil : Reads env q [] :=
  .opening ⟨_, ⟨[], by simp, rfl⟩, List.nil_prefix⟩

theorem reads_wrappedSteps {parsed : ParsedQuery} {wrappedSql : PyStr} (explicit : List ℤ)
    {allowed : Finset PyStr} {n : ℕ} (hchecked : QueryChecked env q wrappedSql allowed parsed n) :
    Reads env q (finalState ((wrappedSteps env q parsed wrappedSql explicit).run [])) := by
  unfold wrappedSteps
  by_cases halias : env.connection.aliasName ≠ env.settings.dbAlias
  · rw [if_pos halias]
    exact reads_nil
  · rw [if_neg halias]
    cases resolveSessionContext env q with
    | error exc =>
      by_cases hexception : exc.isException = true
      · simp only [hexception, if_true]
        cases exc.str with
        | ok text => exact reads_nil
        | error e => exact reads_nil
      · simp only [hexception, Bool.false_eq_true, if_false]
        exact reads_nil
    | ok context =>
      have hread := sent_of_readTransaction env.connection q.profile.role context wrappedSql
      have hsent : ∀ (f : Except PyExc (List (List Value) × List PyStr) → Except PyExc Ending),
          finalState ((attempt (readTransaction env.connection q.profile.role context
            wrappedSql) >>= fun r => call (f r)).run []) =
          finalState ((readTransaction env.connection q.profile.role context wrappedSql).run []) :=
        fun f => finalState_bind_of_keeps (fun r => .call (fun _ => rfl) (f r)) []
      simp only [hsent]
      rcases hread with hopening | ⟨opening, hopened, hasked⟩
      · exact .opening hopening
      · rw [hasked]
        exact .asked hopened hopened.sessionGuarded hchecked

/-- The transcript of a query. -/
theorem reads_transcript (env : ExecutorEnv) (q : QueryCall) : Reads env q (transcript env q) := by
  unfold transcript steps
  cases env.aliasConfigured with
  | false => exact reads_nil
  | true =>
    simp only [Bool.not_true, Bool.false_eq_true, if_false]
    rw [EStateM.run_bind]
    cases hallowed : allowedTables env q.profile with
    | error e => exact reads_nil
    | ok allowed =>
      rw [run_call_ok]
      cases hparsed : parseAndValidate env.sqlglot q.rawSql allowed env.settings.banSelectStar with
      | error e =>
        simp only [hparsed]
        cases e <;> exact reads_nil
      | ok parsed =>
        simp only [hparsed]
        unfold parsedSteps
        by_cases hzero : effectiveLimit env.settings.limits (explicitLimits q.limit parsed.ast) = 0
        · simp only [hzero, if_true]
          exact reads_nil
        · simp only [hzero, if_false]
          cases hwrap : wrapSql env.sqlglot parsed.ast
              (effectiveLimit env.settings.limits (explicitLimits q.limit parsed.ast) + 1) with
          | error e => cases e <;> exact reads_nil
          | ok wrappedSql =>
            obtain ⟨n, hn, hpos, hhard⟩ : ∃ n : ℕ,
                effectiveLimit env.settings.limits (explicitLimits q.limit parsed.ast) = n ∧
                  0 < n ∧ (n : ℤ) ≤ env.settings.limits.hardLimit := by
              unfold effectiveLimit at hzero ⊢
              refine ⟨(min (minExplicitLimit env.settings.limits
                (explicitLimits q.limit parsed.ast)) env.settings.limits.hardLimit).toNat, ?_⟩
              omega
            obtain ⟨hstatement, haccepted, -⟩ := parseAndValidate_eq_ok.mp hparsed
            rw [hn] at hwrap
            refine reads_wrappedSteps _ ⟨hallowed, hstatement, ?_, haccepted,
              referenced_subset haccepted.tables, hpos, hhard, hwrap⟩
            exact (accepted_of_parseAndValidate hparsed).2

/-! ## Who is let in -/

/-- Every gate is open for the user of a visit. -/
structure LetIn (v : Visit) (passed : Authenticated) : Prop where
  verified : v.auth.verify = .ok (some (passed.user, passed.token))
  application : isMcpApplicationName v.env.settings passed.token.application.name = true
  scope : v.env.settings.scope ∈ split (passed.token.scope.getD [])
  active : passed.user.isActive = true
  staff : passed.user.isStaff = true
  mfa : v.auth.mfaChecker passed.user = .ok true
  bound : ∃ held, v.auth.permissions passed.user = .ok held ∧
    resolveProfile v.env.settings held = .bound passed.mcpProfile
  session : hasLiveSession v.env.settings v.auth passed.user = .ok true

omit [UnicodeDatabase] in
/-- The gates bind a user to a profile when every one of them is open. -/
theorem gates_open_of_checkGates {settings : Settings} {auth : AuthEnv} {user : User}
    {token : AccessToken} {profile : Profile}
    (h : checkGates settings auth user token = .ok (.inr profile)) :
    isMcpApplicationName settings token.application.name = true ∧
      settings.scope ∈ split (token.scope.getD []) ∧ user.isActive = true ∧ user.isStaff = true ∧
      auth.mfaChecker user = .ok true ∧
      (∃ held, auth.permissions user = .ok held ∧ resolveProfile settings held = .bound profile) ∧
      hasLiveSession settings auth user = .ok true := by
  unfold checkGates at h
  by_cases happ : isMcpApplicationName settings token.application.name = true
  · by_cases hscope : settings.scope ∈ split (token.scope.getD [])
    · by_cases hstaff : (user.isActive && user.isStaff) = true
      · simp only [happ, hscope, hstaff, not_true, if_false, bind_eq_ok] at h
        obtain ⟨mfa, hmfa, h⟩ := h
        cases mfa with
        | false => simp [pure, Except.pure] at h
        | true =>
          simp only [not_true, if_false, bind_eq_ok] at h
          obtain ⟨held, hheld, h⟩ := h
          cases hresolved : resolveProfile settings held with
          | noPerm => simp [hresolved, pure, Except.pure] at h
          | ambiguousProfile => simp [hresolved, pure, Except.pure] at h
          | bound found =>
            simp only [hresolved, bind_eq_ok] at h
            obtain ⟨live, hlive, h⟩ := h
            cases live with
            | false => simp [pure, Except.pure] at h
            | true =>
              obtain rfl : found = profile := by simpa [pure, Except.pure] using h
              obtain ⟨hactive, hmember⟩ := Bool.and_eq_true_iff.mp hstaff
              exact ⟨happ, hscope, hactive, hmember, hmfa, ⟨held, hheld, hresolved⟩, hlive⟩
      · simp [happ, hscope, hstaff, pure, Except.pure] at h
    · simp [happ, hscope, pure, Except.pure] at h
  · simp [happ, pure, Except.pure] at h

theorem letIn_of_passed {v : Visit} {w : World} {passed : Authenticated}
    (h : v.passed w = some passed) : LetIn v passed := by
  obtain ⟨-, hverify, hgates⟩ := (passed_eq_some_iff v w passed).mp h
  obtain ⟨happ, hscope, hactive, hstaff, hmfa, hbound, hlive⟩ := gates_open_of_checkGates hgates
  exact ⟨hverify, happ, hscope, hactive, hstaff, hmfa, hbound, hlive⟩

/-! ## A run -/

/-- What a visit asks the read database, on whose behalf. -/
structure VisitReads (v : Visit) (passed : Authenticated) (sent : List Statement) : Prop where
  letIn : LetIn v passed
  reads : ∃ rawSql limit, v.tool = .runQuery rawSql limit ∧
    Reads v.env ((endpointPrincipal v.request passed).query rawSql limit) sent

/-- Over any run, the read database is sent the statements of the visits, in their order.  A visit
that sends any was let in through every gate and called `run_query`; it opens the session of the
profile its user is bound to, and asks at most its own query, checked for that profile, in a session
that has the profile's role and all guards. -/
theorem reads_of_run (history : List Visit) (w : World) :
    ∃ transcripts : List (List Statement),
      (serveAll history w).executed = w.executed ++ transcripts.flatten.map Statement.sql ∧
      List.Forall₂ (fun stage sent => sent = [] ∨
          ∃ passed, stage.2.passed stage.1 = some passed ∧ VisitReads stage.2 passed sent)
        (visitStages history w) transcripts := by
  refine ⟨(visitStages history w).map fun stage => stage.2.sent stage.1, ?_, ?_⟩
  · refine (journal_foldl (fun s v => congrArg Journals.executed (serve_journals v s))
      history w).trans ?_
    rw [← List.flatMap_def, List.map_flatMap]
    rfl
  · rw [List.forall₂_map_right_iff, List.forall₂_same]
    rintro ⟨s, v⟩ -
    unfold Visit.sent
    cases hpassed : v.passed s with
    | none => exact Or.inl rfl
    | some passed =>
      cases htool : v.tool with
      | listTables => exact Or.inl rfl
      | describeTable name => exact Or.inl rfl
      | runQuery rawSql limit =>
        exact Or.inr ⟨passed, rfl, letIn_of_passed hpassed, rawSql, limit, htool,
          reads_transcript v.env _⟩

end Transcripts

end McpSql
