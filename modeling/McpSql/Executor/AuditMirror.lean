import McpSql.Executor.AuditOnce
import McpSql.Executor.CellCap
import McpSql.Parser.FromItems

/-!
# The audit row mirrors the response

`run_query` builds its audit row and its result side by side at each of its return sites.  Both are
functions of the ending the steps lead to, and the ending agrees with what was sent to the database;
so the row says what the caller was told and what the database was asked.
-/

namespace McpSql

open Python PyStr Effect Raising GreedyPrefix

/-! ## The agent's SQL in a transcript -/

/-- The SQL of the agent among the statements of a session: behind those that open it, the context
is set by statements with bound parameters, and the agent's SQL has none. -/
def agentSql (sent : List Statement) : List PyStr :=
  ((sent.drop (1 + expectedSessionGucs.length)).filter fun s => s.params.isEmpty).map Statement.sql

/-- Statements of the session itself. -/
def SessionOnly (sent : List Statement) : Prop := agentSql sent = []

/-- Statements with bound parameters are appended. -/
def SetsContext (sent sent' : List Statement) : Prop :=
  ∃ more, sent' = sent ++ more ∧ ∀ s ∈ more, s.params ≠ []

theorem SetsContext.refl (sent : List Statement) : SetsContext sent sent := by
  refine ⟨[], (List.append_nil _).symm, ?_⟩
  intro s hs
  simp at hs

theorem SetsContext.trans (sent sent' sent'' : List Statement) (h : SetsContext sent sent')
    (h' : SetsContext sent' sent'') : SetsContext sent sent'' := by
  obtain ⟨more, rfl, hmore⟩ := h
  obtain ⟨more', rfl, hmore'⟩ := h'
  refine ⟨more ++ more', List.append_assoc _ _ _, ?_⟩
  intro s hs
  rcases List.mem_append.mp hs with hs | hs
  · exact hmore s hs
  · exact hmore' s hs

/-- What is sent behind the opening statements. -/
theorem agentSql_opening_append (role : PyStr) (more : List Statement) :
    agentSql (openingStatements role ++ more) =
      (more.filter fun s => s.params.isEmpty).map Statement.sql := rfl

/-- Opening a session sends no SQL of the agent, finished or not. -/
theorem sessionOnly_of_prefix {role : PyStr} {sent : List Statement}
    (h : sent <+: openingStatements role) : SessionOnly sent := by
  have hlength : sent.length ≤ 1 + expectedSessionGucs.length := h.length_le
  unfold SessionOnly agentSql
  rw [List.drop_of_length_le hlength]
  rfl

/-! ## What the context sends -/

/-- Binding a context entry sends a statement with bound parameters. -/
theorem keeps_setContextItem (answer : Statement → Except PyExc Unit) (item : ContextItem) :
    Keeps SetsContext (setContextItem answer item) := by
  have hexecute : ∀ name value, Keeps SetsContext
      (execute answer ⟨lit "SELECT set_config(%s, %s, true)", [name, value]⟩) := by
    intro name value sent
    rw [finalState_execute]
    refine ⟨_, rfl, ?_⟩
    intro s hs
    rw [List.mem_singleton.mp hs]
    exact List.cons_ne_nil _ _
  have hvalue : ∀ name, Keeps SetsContext (call item.value >>= fun value =>
      execute answer ⟨lit "SELECT set_config(%s, %s, true)", [name, value]⟩) := fun name =>
    .bind SetsContext.trans (.call SetsContext.refl _) (hexecute name)
  unfold setContextItem
  cases item.name with
  | str s => exact .bind SetsContext.trans (.pure SetsContext.refl _) hvalue
  | other text => exact .bind SetsContext.trans (.call SetsContext.refl _) hvalue

section Transcript

variable [UnicodeDatabase]

theorem keeps_setContext (answer : Statement → Except PyExc Unit) (sessionContext : HookResult) :
    Keeps SetsContext (setContext answer sessionContext) := by
  unfold setContext
  split
  · refine .bind SetsContext.trans (.call SetsContext.refl _) fun _ => ?_
    exact .forM SetsContext.refl SetsContext.trans fun item _ => keeps_setContextItem answer item
  · exact .call SetsContext.refl _
  · exact .pure SetsContext.refl _

/-- Entering a session sends no SQL of the agent; once entered, the SQL sent next is the agent's. -/
theorem finalState_enterReadonlySession (answer : Statement → Except PyExc Unit) (role : PyStr)
    (sessionContext : HookResult) :
    (∃ sent, (enterReadonlySession answer role sessionContext).run [] = .ok () sent ∧
        ∀ sql, agentSql (sent ++ [⟨sql, []⟩]) = [sql]) ∨
      ∃ e sent, (enterReadonlySession answer role sessionContext).run [] = .error e sent ∧
        SessionOnly sent := by
  rw [enterReadonlySession_eq, EStateM.run_bind]
  rcases run_forM_execute answer (openingStatements role) [] with hrun | ⟨e, pre, hpre, hrun⟩
  · obtain ⟨more, hsent, hmore⟩ := keeps_setContext answer sessionContext
      ([] ++ openingStatements role)
    have hnone : (more.filter fun s => s.params.isEmpty) = [] := by
      rw [List.filter_eq_nil_iff]
      intro s hs
      simpa using hmore s hs
    rw [hrun]
    rw [List.nil_append] at hsent ⊢
    show (∃ sent, (setContext answer sessionContext).run _ = _ ∧ _) ∨
      ∃ e sent, (setContext answer sessionContext).run _ = _ ∧ _
    cases hcontext : (setContext answer sessionContext).run (openingStatements role) with
    | ok u sent =>
      rw [hcontext] at hsent
      obtain rfl : sent = openingStatements role ++ more := hsent
      refine Or.inl ⟨_, rfl, fun sql => ?_⟩
      rw [List.append_assoc, agentSql_opening_append, List.filter_append, hnone]
      rfl
    | error e sent =>
      rw [hcontext] at hsent
      obtain rfl : sent = openingStatements role ++ more := hsent
      refine Or.inr ⟨e, _, rfl, ?_⟩
      unfold SessionOnly
      rw [agentSql_opening_append, hnone]
      rfl
  · rw [hrun]
    rw [List.nil_append]
    exact Or.inr ⟨e, pre, rfl, sessionOnly_of_prefix hpre⟩

/-- A read either sends the agent's SQL, or fails before it does. -/
theorem agentSql_readTransaction (connection : ReadConnection) (role : PyStr)
    (sessionContext : HookResult) (wrappedSql : PyStr) :
    let read := (readTransaction connection role sessionContext wrappedSql).run []
    agentSql (finalState read) = [wrappedSql] ∨
      (SessionOnly (finalState read) ∧ ∃ e, outcome read = .error e) := by
  intro read
  have hread : read = (call connection.begin >>= fun _ =>
      enterReadonlySession connection.execute role sessionContext >>= fun _ =>
        execute connection.execute ⟨wrappedSql, []⟩ >>= fun _ =>
          (call (connection.fetchall wrappedSql) >>= fun rawRows => call connection.commit >>=
            fun _ => pure (rawRows, (connection.description wrappedSql).getD []))).run [] := rfl
  rw [hread, EStateM.run_bind]
  cases connection.begin with
  | error e => exact Or.inr ⟨rfl, e, rfl⟩
  | ok u =>
    show agentSql (finalState ((enterReadonlySession _ _ _ >>= _).run [])) = _ ∨
      (SessionOnly (finalState ((enterReadonlySession _ _ _ >>= _).run [])) ∧
        ∃ e, outcome ((enterReadonlySession _ _ _ >>= _).run []) = .error e)
    rw [EStateM.run_bind]
    rcases finalState_enterReadonlySession connection.execute role sessionContext with
      ⟨sent, hrun, hsql⟩ | ⟨e, sent, hrun, honly⟩
    · refine Or.inl ?_
      rw [hrun]
      -- what follows the agent's SQL sends nothing
      refine Eq.trans (congrArg agentSql ?_) (hsql wrappedSql)
      rw [← finalState_execute connection.execute ⟨wrappedSql, []⟩ sent]
      apply finalState_bind_of_keeps
      intro _
      have htrans : ∀ a b c : List Statement, a = b → b = c → a = c := fun _ _ _ => Eq.trans
      refine .bind htrans (.call (fun _ => rfl) _) fun rawRows => ?_
      exact .bind htrans (.call (fun _ => rfl) _) fun _ => .pure (fun _ => rfl) _
    · refine Or.inr ?_
      rw [hrun]
      exact ⟨honly, e, rfl⟩

end Transcript

/-! ## What an ending says about what was sent -/

/-- Each ending of steps, with what was sent, satisfies a property. -/
def Ends (P : Ending → List Statement → Prop) (x : Session Ending) : Prop :=
  ∀ ending sent, x.run [] = .ok ending sent → P ending sent

section Ends

variable {P : Ending → List Statement → Prop}

theorem ends_pure {ending : Ending} (h : P ending []) : Ends P (pure ending) := by
  intro ending' sent hrun
  obtain ⟨rfl, rfl⟩ : ending = ending' ∧ [] = sent := by simpa using hrun
  exact h

theorem ends_raise (e : PyExc) : Ends P (raise e) := by
  intro ending sent hrun
  simp at hrun

theorem ends_call_bind {α : Type} {r : Except PyExc α} {f : α → Session Ending}
    (h : ∀ a, r = .ok a → Ends P (f a)) : Ends P (call r >>= f) := by
  cases r with
  | ok a => exact h a rfl
  | error e => exact ends_raise e

theorem ends_attempt_bind {α : Type} {x : Session α} {f : Except PyExc α → Except PyExc Ending}
    (h : ∀ ending, f (outcome (x.run [])) = .ok ending → P ending (finalState (x.run []))) :
    Ends P (attempt x >>= fun r => call (f r)) := by
  intro ending sent hrun
  have hcall : (attempt x >>= fun r => call (f r)).run [] =
      (call (f (outcome (x.run [])))).run (finalState (x.run [])) := rfl
  rw [hcall] at hrun
  obtain ⟨hread, rfl⟩ := run_call_eq_ok.mp hrun
  exact h ending hread

end Ends

/-- sqlglot renders a statement with a `LIMIT` as a text that is not empty. -/
def RendersLimits (sqlglot : Sqlglot) : Prop :=
  ∀ ast n limited sql, sqlglot.limit ast n = .ok limited → sqlglot.sql limited false = .ok sql →
    sql ≠ []

/-- The ending of a query fits what was sent to the database. -/
def EndingFits : Ending → List Statement → Prop
  | .answered _ wrappedSql _ capped _, sent =>
    wrappedSql ≠ [] ∧ agentSql sent = [wrappedSql] ∧
      ∃ bytesLimit rows, capRows bytesLimit rows = .ok capped
  | .databaseError _ wrappedSql _ _, sent => SessionOnly sent ∨ agentSql sent = [wrappedSql]
  | _, sent => sent = []

section Steps

variable [UnicodeDatabase] {env : ExecutorEnv} (q : QueryCall) (parsed : ParsedQuery)

theorem fits_wrappedSteps {wrappedSql : PyStr} (hne : wrappedSql ≠ []) (explicit : List ℤ) :
    Ends EndingFits (wrappedSteps env q parsed wrappedSql explicit) := by
  unfold wrappedSteps
  by_cases halias : env.connection.aliasName ≠ env.settings.dbAlias
  · rw [if_pos halias]
    exact ends_pure rfl
  · rw [if_neg halias]
    cases resolveSessionContext env q with
    | error exc =>
      by_cases hexception : exc.isException = true
      · simp only [hexception, if_true]
        exact ends_call_bind fun text _ => ends_pure rfl
      · simp only [hexception, Bool.false_eq_true, if_false]
        exact ends_raise exc
    | ok sessionContext =>
      apply ends_attempt_bind
      intro ending hending
      have hsent := agentSql_readTransaction env.connection q.profile.role sessionContext wrappedSql
      cases hread : outcome ((readTransaction env.connection q.profile.role sessionContext
          wrappedSql).run []) with
      | ok pair =>
        rw [hread] at hending
        have hsql := hsent.resolve_right (by simp [hread])
        obtain ⟨capped, hcapped, hending⟩ := bind_eq_ok.mp hending
        rw [← Except.ok.inj hending]
        exact ⟨hne, hsql, _, _, hcapped⟩
      | error exc =>
        rw [hread] at hending
        unfold readEnding at hending
        by_cases hdatabase : exc.isDatabaseError = true
        · simp only [hdatabase, if_true] at hending
          obtain ⟨text, -, hending⟩ := bind_eq_ok.mp hending
          rw [← Except.ok.inj hending]
          exact hsent.symm.imp_left And.left
        · simp [hdatabase] at hending

theorem fits_parsedSteps (hrenders : RendersLimits env.sqlglot) :
    Ends EndingFits (parsedSteps env q parsed) := by
  unfold parsedSteps
  by_cases hzero : effectiveLimit env.settings.limits (explicitLimits q.limit parsed.ast) = 0
  · simp only [hzero, if_true]
    exact ends_pure rfl
  · simp only [hzero, if_false]
    cases hwrap : wrapSql env.sqlglot parsed.ast
        (effectiveLimit env.settings.limits (explicitLimits q.limit parsed.ast) + 1) with
    | ok wrappedSql =>
      obtain ⟨limited, hlimited, hsql⟩ := bind_eq_ok.mp hwrap
      exact fits_wrappedSteps q parsed (hrenders _ _ _ _ hlimited hsql) _
    | error e =>
      cases e with
      | recursionError text => exact ends_pure rfl
      | _ => exact ends_raise _

theorem fits_steps (hrenders : RendersLimits env.sqlglot) : Ends EndingFits (steps env q) := by
  unfold steps
  cases env.aliasConfigured with
  | false => exact ends_pure rfl
  | true =>
    simp only [Bool.not_true, Bool.false_eq_true, if_false]
    apply ends_call_bind
    intro allowed _
    cases parseAndValidate env.sqlglot q.rawSql allowed env.settings.banSelectStar with
    | ok parsed => exact fits_parsedSteps q parsed hrenders
    | error e =>
      cases e with
      | queryRejected exc => exact ends_pure rfl
      | _ => exact ends_raise _

end Steps

/-! ## The row and the result -/

/-- `QueryResult.rejection_reason`: the text of the outcome code. -/
def QueryResult.reasonText (result : QueryResult) : PyStr :=
  (result.rejectionReason.map OutcomeReason.value).getD []

/-- The fields of a row that come from the caller. -/
structure CallersRow (q : QueryCall) (row : QueryLogRow) : Prop where
  user : row.user = q.user.pk
  profile : row.profile = q.profile.name
  tokenId : row.tokenId = q.tokenId
  clientIp : row.clientIp = q.clientIp
  clientRedirect : row.clientRedirect = q.clientRedirect
  rawSql : row.rawSql = q.rawSql

/-- The row of a query that succeeded. -/
structure SuccessMirrored (row : QueryLogRow) (result : QueryResult) (sent : List Statement) :
    Prop where
  rowCount : row.rowCount = some result.rowCount
  truncated : row.truncated = result.truncated
  durationMs : row.durationMs = some result.durationMs
  executed : row.wrappedSql ≠ [] → agentSql sent = [row.wrappedSql]
  idle : row.wrappedSql = [] ↔ sent = []
  resultBytes : ∃ sizes, List.Forall₂ (fun cells size => rowBytes cells = .ok size)
    result.rows sizes ∧ row.resultBytes = some sizes.sum

/-- The row says what the caller was told and what was sent to the database. -/
structure Mirrors (q : QueryCall) (row : QueryLogRow) (result : QueryResult)
    (sent : List Statement) : Prop where
  caller : CallersRow q row
  reason : row.rejectionReason = result.reasonText
  error : row.error = result.error
  success : result.reasonText = [] → SuccessMirrored row result sent
  noRows : result.reasonText ≠ [] → result.rows = []
  rejected : row.decision = .rejected → sent = []
  executed : ∀ sql ∈ agentSql sent, row.decision = .allowed ∧ row.wrappedSql = sql

theorem OutcomeReason.value_ne_nil (reason : OutcomeReason) : reason.value ≠ [] := by
  cases reason <;> decide

theorem callersRow_row (env : ExecutorEnv) (q : QueryCall) (ending : Ending) :
    CallersRow q (ending.row env q) := by
  cases ending <;> exact ⟨rfl, rfl, rfl, rfl, rfl, rfl⟩

/-- A refusal before the database was asked. -/
theorem mirrors_refusal {q : QueryCall} {row : QueryLogRow} {reason : OutcomeReason}
    (hcaller : CallersRow q row) (hreason : row.rejectionReason = reason.value) :
    Mirrors q row (Ending.refusal reason row.error) [] := by
  have hne : (Ending.refusal reason row.error).reasonText ≠ [] := reason.value_ne_nil
  refine ⟨hcaller, hreason, rfl, fun hnil => absurd hnil hne, fun _ => rfl, fun _ => rfl, ?_⟩
  intro sql hsql
  exact absurd hsql List.not_mem_nil

/-- The row of an ending mirrors its answer. -/
theorem mirrors_of_fits {env : ExecutorEnv} (q : QueryCall) {ending : Ending}
    {sent : List Statement} {result : QueryResult} (hfits : EndingFits ending sent)
    (hanswer : ending.answer env = .ok result) :
    Mirrors q (ending.row env q) result sent := by
  have hcaller := callersRow_row env q ending
  cases ending with
  | misconfigured message => simp [Ending.answer] at hanswer
  | rejected exc =>
    obtain rfl : sent = [] := hfits
    rw [← Except.ok.inj hanswer]
    exact mirrors_refusal hcaller rfl
  | tooDeep normalizedSql =>
    obtain rfl : sent = [] := hfits
    rw [← Except.ok.inj hanswer]
    exact mirrors_refusal hcaller rfl
  | hookFailed normalizedSql wrappedSql text =>
    obtain rfl : sent = [] := hfits
    rw [← Except.ok.inj hanswer]
    exact mirrors_refusal hcaller rfl
  | metadataOnly normalizedSql =>
    obtain rfl : sent = [] := hfits
    rw [← Except.ok.inj hanswer]
    refine ⟨hcaller, rfl, rfl, fun _ => ?_, fun _ => rfl, fun _ => rfl, ?_⟩
    · exact ⟨rfl, rfl, rfl, fun hne => absurd rfl hne, iff_of_true rfl rfl, [], .nil, rfl⟩
    · intro sql hsql
      exact absurd hsql List.not_mem_nil
  | databaseError normalizedSql wrappedSql text reason =>
    rw [← Except.ok.inj hanswer]
    refine ⟨hcaller, rfl, rfl, fun hnil => absurd hnil reason.value_ne_nil, fun _ => rfl, ?_, ?_⟩
    · intro hdecision
      exact absurd hdecision (by decide : Decision.allowed ≠ Decision.rejected)
    · intro sql hsql
      refine ⟨rfl, ?_⟩
      rcases hfits with honly | hagent
      · rw [honly] at hsql
        exact absurd hsql List.not_mem_nil
      · rw [hagent] at hsql
        exact (List.mem_singleton.mp hsql).symm
  | answered normalizedSql wrappedSql columns capped truncated =>
    obtain ⟨hne, hagent, bytesLimit, rows, hcapped⟩ := hfits
    rw [← Except.ok.inj hanswer]
    have hsent : sent ≠ [] := by
      rintro rfl
      exact absurd hagent (List.cons_ne_nil _ _).symm
    obtain ⟨sizes, hsizes, htotal⟩ := sizes_of_capRows hcapped
    refine ⟨hcaller, rfl, rfl, fun _ => ?_, fun hreason => absurd rfl hreason, ?_, ?_⟩
    · exact ⟨rfl, rfl, rfl, fun _ => hagent, iff_of_false hne hsent, sizes, hsizes,
        congrArg some htotal⟩
    · intro hdecision
      exact absurd hdecision (by decide : Decision.allowed ≠ Decision.rejected)
    · intro sql hsql
      rw [hagent] at hsql
      exact ⟨rfl, (List.mem_singleton.mp hsql).symm⟩

/-! ## The call -/

section Call

variable [UnicodeDatabase]

/-- The statements of a call, with their bound parameters. -/
def transcript (env : ExecutorEnv) (q : QueryCall) : List Statement :=
  finalState ((steps env q).run [])

/-- A call that returns has an ending, whose answer it returns. -/
theorem ending_of_returns {env : ExecutorEnv} {q : QueryCall} {w w' : World} {result : QueryResult}
    (h : (runQuery env q).run w = .ok result w') :
    ∃ ending, (steps env q).run [] = .ok ending (transcript env q) ∧
      ending.answer env = .ok result ∧
      w'.executed = w.executed ++ (transcript env q).map Statement.sql := by
  unfold transcript
  rw [runQuery_eq] at h
  have hexecuted := executed_audited env q (steps env q) w
  rw [h] at hexecuted
  rw [run_audited] at h
  cases hsteps : (steps env q).run [] with
  | error e sent => simp [hsteps] at h
  | ok ending sent =>
    rw [hsteps] at hexecuted
    simp only [hsteps] at h
    obtain ⟨log, hrun⟩ := run_conclude env q ending
      { w with executed := w.executed ++ sent.map Statement.sql }
    rw [h] at hrun
    obtain ⟨u, w'', -, hcall⟩ := run_bind_eq_ok.mp hrun.symm
    obtain ⟨hanswer, -⟩ := run_call_eq_ok.mp hcall
    exact ⟨ending, rfl, hanswer, hexecuted⟩

/-- Whenever `run_query` returns, the one row it attempted mirrors the result and what was sent to
the database. -/
theorem audit_row_mirrors (env : ExecutorEnv) (q : QueryCall) (result : QueryResult) (w w' : World)
    (hrenders : RendersLimits env.sqlglot) (h : (runQuery env q).run w = .ok result w') :
    ∃ row, w'.queryLogAttempts = w.queryLogAttempts ++ [row] ∧
      w'.executed = w.executed ++ (transcript env q).map Statement.sql ∧
      Mirrors q row result (transcript env q) := by
  obtain ⟨ending, hsteps, hanswer, hexecuted⟩ := ending_of_returns h
  refine ⟨ending.row env q, ?_, hexecuted, ?_⟩
  · have hattempts := queryLogAttempts_audited env q (steps env q) w
    rw [← runQuery_eq, h, hsteps] at hattempts
    exact hattempts
  · exact mirrors_of_fits q (fits_steps q hrenders ending _ hsteps) hanswer

end Call

/-- A query that returns the one row of `notes`. -/
theorem audit_row_mirrors_notes :
    letI := asciiDatabase
    let env := exampleExecutorEnv (Sqlglot.on plainQuery (lit "SELECT x FROM notes LIMIT 101"))
      fun _ => [[.int 1]]
    let q := exampleCall "SELECT x FROM notes" none
    ∃ result w' row, (runQuery env q).run emptyWorld = .ok result w' ∧ result.rows = [[.int 1]] ∧
      w'.queryLogAttempts = [row] ∧ Mirrors q row result (transcript env q) := by
  let _ := asciiDatabase
  have hrenders : RendersLimits (Sqlglot.on plainQuery (lit "SELECT x FROM notes LIMIT 101")) := by
    intro ast n limited sql _ hsql
    rw [← Except.ok.inj hsql]
    exact List.cons_ne_nil _ _
  obtain ⟨row, hattempts, -, hmirrors⟩ := audit_row_mirrors
    (exampleExecutorEnv (Sqlglot.on plainQuery (lit "SELECT x FROM notes LIMIT 101"))
      fun _ => [[.int 1]])
    (exampleCall "SELECT x FROM notes" none) _ emptyWorld _ hrenders rfl
  exact ⟨_, _, row, rfl, rfl, hattempts, hmirrors⟩

end McpSql
