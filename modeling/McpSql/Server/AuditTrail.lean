import McpSql.Server.Visits

/-!
# The audit trail of a run

Who is let in and what is asked for decide the audit rows of a visit; over a run the two audit
tables hold the rows of its visits, in order, and nothing else.
-/

namespace McpSql

open Python PyStr Effect GuardedRun

section AuditTrail

variable [UnicodeDatabase]

/-! ## Who is let in -/

/-- A visit is let in as the user of its bearer when every gate is open. -/
theorem passed_eq_some_iff (v : Visit) (w : World) (passed : Authenticated) :
    v.passed w = some passed ↔ v.looksUp w = true ∧
      v.auth.verify = .ok (some (passed.user, passed.token)) ∧
        checkGates v.env.settings v.auth passed.user passed.token =
          .ok (.inr passed.mcpProfile) := by
  unfold Visit.passed
  rcases run_authenticate_visit v w with ⟨hlooks, hrun⟩ | ⟨hlooks, hrun | ⟨e, hrun⟩⟩
  · simp only [hrun, hlooks, true_and]
    constructor
    · intro h
      have hbearer : outcome ((authenticateBearer v.env.settings v.env.faults v.auth
          v.request).run w) = .ok (some passed) := by
        cases hauth : outcome ((authenticateBearer v.env.settings v.env.faults v.auth
            v.request).run w) with
        | ok answer =>
          rw [hauth] at h
          exact congrArg Except.ok h
        | error e => simp [hauth] at h
      exact passed_of_authenticateBearer hbearer
    · rintro ⟨hverify, hgates⟩
      unfold authenticateBearer authenticateUser
      rw [EStateM.run_bind, hverify, run_call_ok]
      simp only [EStateM.run_bind, hgates, run_call_ok]
      rfl
  · simp [hrun, hlooks]
  · simp [hrun, hlooks]

/-! ## The rows of a visit -/

/-- An audit row of a call names who was let in, and what was called. -/
structure RowOf (v : Visit) (passed : Authenticated) (row : QueryLogRow) : Prop where
  user : row.user = passed.user.pk
  profile : row.profile = passed.mcpProfile.name
  tokenId : row.tokenId = passed.token.pk
  clientIp : row.clientIp = v.request.remoteAddr
  clientRedirect : row.clientRedirect = passed.token.application.redirectUris
  tool : row.tool = v.tool.toolName.value
  rawSql : row.rawSql = v.tool.detail
  startedAt : row.startedAt = v.env.startedAt

/-- The rows a visit adds to the two audit tables. -/
inductive Audited (v : Visit) (w : World) :
    Option QueryLogRow → Option AuthRejectionRow → Prop
  /-- Nobody is named: the bearer is not looked up, not resolved, or a lookup fails. -/
  | unnamed (h : v.looksUp w = true → ∀ user token, v.auth.verify = .ok (some (user, token)) →
      ∃ e, checkGates v.env.settings v.auth user token = .error e) : Audited v w none none
  /-- The first gate that is shut is recorded, with the user of the bearer. -/
  | refused {user : User} {token : AccessToken} {gate : Gate} (hlooks : v.looksUp w = true)
      (hverify : v.auth.verify = .ok (some (user, token)))
      (hgate : checkGates v.env.settings v.auth user token = .ok (.inl gate)) :
      Audited v w none (some (rejectionRow v.auth v.request gate user token))
  /-- The call is recorded when it reaches its audit. -/
  | admitted {passed : Authenticated} {row : Option QueryLogRow}
      (hpassed : v.passed w = some passed)
      (hbuilds : row.isSome = true ↔
        BuildsRow v.env (endpointPrincipal v.request passed) v.tool)
      (hrow : ∀ r ∈ row, RowOf v passed r) : Audited v w row none

theorem rowOf_endingRow (v : Visit) (passed : Authenticated) {rawSql : PyStr} {limit : Option ℤ}
    (htool : v.tool = .runQuery rawSql limit) (ending : Ending) :
    RowOf v passed
      (ending.row v.env ((endpointPrincipal v.request passed).query rawSql limit)) := by
  obtain ⟨huser, hprofile, htoken, hip, hredirect, hsql⟩ := callersRow_row v.env
    ((endpointPrincipal v.request passed).query rawSql limit) ending
  have hname : (ending.row v.env
      ((endpointPrincipal v.request passed).query rawSql limit)).tool = lit "run_query" := by
    cases ending <;> rfl
  have hstarted : (ending.row v.env
      ((endpointPrincipal v.request passed).query rawSql limit)).startedAt =
        v.env.startedAt := by
    cases ending <;> rfl
  refine ⟨huser, hprofile, htoken, hip, hredirect, ?_, ?_, hstarted⟩
  · rw [hname, htool]
    rfl
  · rw [hsql, htool]
    rfl

/-- A call that is let in is recorded when it reaches its audit. -/
theorem isSome_toolRow_iff (env : ExecutorEnv) (p : Principal) (tool : ToolCall) :
    (toolRow env p tool).isSome = true ↔ BuildsRow env p tool := by
  have hmetadata : ∀ row : QueryLogRow,
      ((declaredTables env p.profile).toOption.map fun _ => row).isSome = true ↔
        ∀ entry ∈ p.profile.allowedModels, ∃ table, env.getModel entry = .ok table := by
    intro row
    rw [← declaredTables_returns_iff]
    cases declaredTables env p.profile with
    | ok tables => simp [Except.toOption]
    | error e => simp [Except.toOption]
  cases tool with
  | runQuery rawSql limit =>
    show _ ↔ StepsHandled env (p.query rawSql limit)
    rw [← returns_steps_iff]
    unfold toolRow Returns
    cases hsteps : outcome ((steps env (p.query rawSql limit)).run []) with
    | ok ending => simp [hsteps]
    | error e => simp [hsteps]
  | listTables => exact hmetadata _
  | describeTable name => exact hmetadata _

theorem rowOf_toolRow (v : Visit) (passed : Authenticated) (r : QueryLogRow)
    (hr : r ∈ toolRow v.env (endpointPrincipal v.request passed) v.tool) : RowOf v passed r := by
  have hmetadata : (r ∈ (declaredTables v.env
      (endpointPrincipal v.request passed).profile).toOption.map fun _ =>
        { (endpointPrincipal v.request passed).row v.env.startedAt .allowed v.tool.detail with
          tool := v.tool.toolName.value }) → RowOf v passed r := by
    intro hmem
    obtain ⟨tables, -, rfl⟩ := Option.mem_map.mp hmem
    exact ⟨rfl, rfl, rfl, rfl, rfl, rfl, rfl, rfl⟩
  cases htool : v.tool with
  | runQuery rawSql limit =>
    rw [htool] at hr
    unfold toolRow at hr
    cases hsteps : outcome ((steps v.env
        ((endpointPrincipal v.request passed).query rawSql limit)).run []) with
    | error e => simp [hsteps] at hr
    | ok ending =>
      simp only [hsteps, Option.mem_def, Option.some.injEq] at hr
      subst hr
      exact rowOf_endingRow v passed htool ending
  | listTables =>
    rw [htool] at hr hmetadata
    exact hmetadata hr
  | describeTable name =>
    rw [htool] at hr hmetadata
    exact hmetadata hr

/-- The rows of a visit follow from who is let in and what is called. -/
theorem audited_visit (v : Visit) (w : World) : Audited v w (v.row w) (v.refusal w) := by
  unfold Visit.row
  cases hpassed : v.passed w with
  | some passed =>
    obtain ⟨hlooks, hverify, hgates⟩ := (passed_eq_some_iff v w passed).mp hpassed
    have hrefusal : v.refusal w = none := by simp [Visit.refusal, hlooks, hverify, hgates]
    rw [hrefusal]
    exact .admitted hpassed (isSome_toolRow_iff v.env _ v.tool) (rowOf_toolRow v passed)
  | none =>
    by_cases hlooks : v.looksUp w = true
    · unfold Visit.refusal
      rw [if_pos hlooks]
      cases hverify : v.auth.verify with
      | error e => exact .unnamed fun _ user token h => by simp [hverify] at h
      | ok resolved =>
        cases resolved with
        | none => exact .unnamed fun _ user token h => by simp [hverify] at h
        | some pair =>
          obtain ⟨user, token⟩ := pair
          cases hgates : checkGates v.env.settings v.auth user token with
          | error e =>
            simp only [hgates]
            refine .unnamed fun _ user' token' h => ?_
            obtain ⟨rfl, rfl⟩ : user = user' ∧ token = token' := by simpa [hverify] using h
            exact ⟨e, hgates⟩
          | ok verdict =>
            cases verdict with
            | inl gate =>
              simp only [hgates]
              exact .refused hlooks hverify hgates
            | inr profile =>
              have hlet := (passed_eq_some_iff v w ⟨user, token, profile⟩).mpr
                ⟨hlooks, hverify, hgates⟩
              simp [hpassed] at hlet
    · rw [Visit.refusal, if_neg hlooks]
      exact .unnamed fun h => absurd h hlooks

/-! ## The rows of a run -/

/-- The states of a run of the server, each with the visit handled there. -/
def visitStages (history : List Visit) (w : World) : List (World × Visit) :=
  stages (fun w v => v.serve w) history w

/-- The state after a history of visits. -/
def serveAll (history : List Visit) (w : World) : World :=
  history.foldl (fun w v => v.serve w) w

/-- Over any run, the two audit tables are sent the rows of the visits, in their order: a visit that
names nobody adds none, one that meets a shut gate adds its rejection, and one that is let in adds a
row of its principal when its call reaches an audit. -/
theorem audit_trail (history : List Visit) (w : World) :
    ∃ trail : List (Option QueryLogRow × Option AuthRejectionRow),
      List.Forall₂ (fun stage rows => Audited stage.2 stage.1 rows.1 rows.2)
        (visitStages history w) trail ∧
      (serveAll history w).queryLogAttempts = w.queryLogAttempts ++ trail.filterMap Prod.fst ∧
      (serveAll history w).authRejectionAttempts =
        w.authRejectionAttempts ++ trail.filterMap Prod.snd := by
  refine ⟨(visitStages history w).map fun stage =>
    (stage.2.row stage.1, stage.2.refusal stage.1), ?_, ?_, ?_⟩
  · rw [List.forall₂_map_right_iff, List.forall₂_same]
    exact fun stage _ => audited_visit stage.2 stage.1
  · rw [List.filterMap_map, List.filterMap_eq_flatMap_toList]
    refine (journal_foldl (fun s v => congrArg Journals.queries (serve_journals v s))
      history w).trans ?_
    rfl
  · rw [List.filterMap_map, List.filterMap_eq_flatMap_toList]
    refine (journal_foldl (fun s v => congrArg Journals.rejections (serve_journals v s))
      history w).trans ?_
    rfl

end AuditTrail

end McpSql
