import McpSql.Executor.Drift
import McpSql.Executor.Ending
import McpSql.Parser.Scope
import McpSql.Profiles.RoleNames

/-!
# What entering a session sets

`enter_readonly_session` sets the role, the guards and the entries of the context, and nothing else:
the names of a context are settings of their own, so that none of them is a guard.  A context that
is not checked binds nothing, and as a hook's result it keeps `run_query` away from the database.
-/

namespace McpSql

open Python PyStr Effect Postgres

/-! ## Contexts -/

/-- The entries of a hook's mapping. -/
def HookResult.items : HookResult → List ContextItem
  | .mapping items => items
  | _ => []

/-- A mapping has each name once. -/
def HookResult.DistinctNames (context : HookResult) : Prop :=
  context.items.Pairwise fun item later => ∀ name, item.name = .str name → later.name ≠ .str name

/-- A mapping all of whose names are safe. -/
def HookResult.SafeMapping : HookResult → Prop
  | .mapping items =>
    ∀ item ∈ items, ∃ name, item.name = .str name ∧ isSafeContextName name = true
  | _ => False

/-- What entering a session with a role and a context sets, and that it sets nothing else. -/
structure SetsExactly (role : PyStr) (context : HookResult) (before after : SessionState) :
    Prop where
  currentUser : after.currentUser = role
  guards : ∀ guc ∈ expectedSessionGucs, after.setting guc.1 = guc.2
  entries : ∀ item ∈ context.items, ∃ name value, item.name = .str name ∧
    item.value = .ok value ∧ after.setting name = value
  sessionUser : after.sessionUser = before.sessionUser
  settings : ∀ name, (∀ guc ∈ expectedSessionGucs, guc.1 ≠ name) →
    (∀ item ∈ context.items, item.name ≠ .str name) → after.setting name = before.setting name

/-! ## The names that are set -/

theorem downcase_expectedSessionGucs : ∀ guc ∈ expectedSessionGucs, downcase guc.1 = guc.1 := by
  decide

/-- A safe name is written in lower case. -/
theorem downcase_of_isSafeContextName {name : PyStr} (h : isSafeContextName name = true) :
    downcase name = name := by
  obtain ⟨hstarts, hsuffix⟩ := Bool.and_eq_true_iff.mp h
  obtain ⟨suffix, rfl⟩ := List.isPrefixOf_iff_prefix.mp hstarts
  rw [List.drop_left] at hsuffix
  have hletters := (Bool.and_eq_true_iff.mp hsuffix).2
  rw [downcase_eq_self_iff]
  intro c hc
  rcases List.mem_append.mp hc with hstem | hc
  · have hlower : (lit "mcp_sql.").all (fun c => !isAsciiUpper c) = true := by decide
    simpa using List.all_eq_true.mp hlower c hstem
  · have hletter := List.all_eq_true.mp hletters c hc
    have hword : (0x61 ≤ c.val ∧ c.val ≤ 0x7a) ∨ c = 0x5f := by simpa using hletter
    rcases hword with ⟨hlow, -⟩ | rfl
    · have hnot : ¬c.val ≤ 0x5a := by omega
      simp [isAsciiUpper, hnot]
    · decide

/-- No guard has a safe name. -/
theorem guard_ne_of_isSafeContextName {name : PyStr} (h : isSafeContextName name = true) :
    ∀ guc ∈ expectedSessionGucs, guc.1 ≠ name := by
  have hguards : ∀ guc ∈ expectedSessionGucs, isSafeContextName guc.1 = false := by decide
  rintro guc hguc rfl
  rw [hguards guc hguc] at h
  exact absurd h (by decide)

/-- Every item of a bound mapping has its entry. -/
theorem HookResult.Binds.entry {context : HookResult} {entries : List (PyStr × PyStr)}
    (h : context.Binds entries) {item : ContextItem} (hitem : item ∈ context.items) :
    ∃ entry ∈ entries, item.name = .str entry.1 ∧ item.value = .ok entry.2 := by
  rcases context with _ | items | ⟨typeName, truthy⟩
  · simp [HookResult.items] at hitem
  · obtain ⟨entry, hentry, hname, -, hvalue⟩ := Raising.exists_of_forall₂_left h hitem
    exact ⟨entry, hentry, hname, hvalue⟩
  · simp [HookResult.items] at hitem

/-- Every entry of a bound mapping comes from an item. -/
theorem HookResult.Binds.item {context : HookResult} {entries : List (PyStr × PyStr)}
    (h : context.Binds entries) {entry : PyStr × PyStr} (hentry : entry ∈ entries) :
    ∃ item ∈ context.items, item.name = .str entry.1 := by
  rcases context with _ | items | ⟨typeName, truthy⟩
  · obtain rfl : entries = [] := h
    exact absurd hentry List.not_mem_nil
  · obtain ⟨item, hitem, hname, -⟩ := Raising.exists_of_forall₂_right h hentry
    exact ⟨item, hitem, hname⟩
  · obtain rfl : entries = [] := h
    exact absurd hentry List.not_mem_nil

/-- The entries of a mapping have different names. -/
theorem HookResult.Binds.nodup {context : HookResult} {entries : List (PyStr × PyStr)}
    (h : context.Binds entries) (hdistinct : context.DistinctNames) :
    (entries.map Prod.fst).Nodup := by
  rcases context with _ | items | ⟨typeName, truthy⟩
  · obtain rfl : entries = [] := h
    exact List.nodup_nil
  · have hitems : items.Pairwise fun item later =>
        ∀ name, item.name = .str name → later.name ≠ .str name := hdistinct
    clear hdistinct
    induction h with
    | nil => exact List.nodup_nil
    | @cons item entry items entries hfirst hrest ih =>
      rw [List.pairwise_cons] at hitems
      rw [List.map_cons, List.nodup_cons]
      refine ⟨fun hmem => ?_, ih hitems.2⟩
      obtain ⟨later, hlater, heq⟩ := List.mem_map.mp hmem
      obtain ⟨other, hother, hname, -⟩ := Raising.exists_of_forall₂_right hrest hlater
      exact hitems.1 other hother entry.1 hfirst.1 (heq ▸ hname)
  · obtain rfl : entries = [] := h
    exact List.nodup_nil

/-- Everything that is set has a name in lower case. -/
theorem HookResult.Binds.downcase_fst {context : HookResult} {entries : List (PyStr × PyStr)}
    (h : context.Binds entries) :
    ∀ entry ∈ expectedSessionGucs ++ entries, downcase entry.1 = entry.1 := by
  intro entry hentry
  rcases List.mem_append.mp hentry with hguc | hcontext
  · exact downcase_expectedSessionGucs entry hguc
  · exact downcase_of_isSafeContextName (h.safe entry hcontext)

/-- The guards and the entries have different names, as the session compares them. -/
theorem HookResult.Binds.nodup_downcase {context : HookResult} {entries : List (PyStr × PyStr)}
    (h : context.Binds entries) (hdistinct : context.DistinctNames) :
    ((expectedSessionGucs ++ entries).map fun entry => downcase entry.1).Nodup := by
  rw [List.map_congr_left h.downcase_fst, List.map_append, List.nodup_append]
  refine ⟨by decide, h.nodup hdistinct, ?_⟩
  intro name hguc other hcontext heq
  obtain ⟨guc, hmem, rfl⟩ := List.mem_map.mp hguc
  obtain ⟨entry, hentry, rfl⟩ := List.mem_map.mp hcontext
  exact guard_ne_of_isSafeContextName (h.safe entry hentry) guc hmem heq

/-! ## Entering a session -/

section Entered

variable [UnicodeDatabase]

/-- A session that is entered has its role, its guards and its context set, and nothing else. -/
theorem setsExactly_of_enterReadonlySession {answer : Statement → Except PyExc Unit}
    {rules : NameRules} {word role : PyStr} (hrole : rules.unquoted word = some role)
    (s : SessionState) {context : HookResult} (hdistinct : context.DistinctNames)
    {sent : List Statement} {u : Unit}
    (h : (enterReadonlySession answer word context).run [] = .ok u sent) :
    SetsExactly role context s (sessionAfter rules s sent) := by
  obtain ⟨entries, hbinds, rfl⟩ := sent_of_enterReadonlySession h
  obtain ⟨user, huser⟩ : ∃ user, s.apply rules (.setRole word) = { s with currentUser := user } :=
    apply_setRole s word
  have hvalue : ∀ entry ∈ expectedSessionGucs ++ entries,
      (sessionAfter rules s (openingStatements word ++
        entries.map setConfigStatement)).setting entry.1 = entry.2 := by
    intro entry hentry
    have hname := hbinds.downcase_fst entry hentry
    rw [sessionAfter_entered, ← hname]
    exact setting_run_set_of_mem _ hbinds.ordinarySetting (hbinds.nodup_downcase hdistinct) hentry
  refine ⟨currentUser_of_enterReadonlySession hrole s h, ?_, ?_, ?_, ?_⟩
  · exact fun guc hguc => hvalue guc (List.mem_append_left _ hguc)
  · intro item hitem
    obtain ⟨entry, hentry, hname, htext⟩ := hbinds.entry hitem
    exact ⟨entry.1, entry.2, hname, htext, hvalue entry (List.mem_append_right _ hentry)⟩
  · rw [sessionAfter_entered, sessionUser_run_set _ hbinds.ordinarySetting, huser]
  · intro name hguards hcontext
    have hne : ∀ entry ∈ expectedSessionGucs ++ entries, downcase entry.1 ≠ name := by
      intro entry hentry heq
      rw [hbinds.downcase_fst entry hentry] at heq
      rcases List.mem_append.mp hentry with hguc | hentry
      · exact hguards entry hguc heq
      · obtain ⟨item, hitem, hname⟩ := hbinds.item hentry
        exact hcontext item hitem (heq ▸ hname)
    rw [sessionAfter_entered, setting_run_set_of_ne _ hbinds.ordinarySetting hne, huser]

/-! ## Contexts that are not checked -/

/-- The check passes the mappings with safe names. -/
theorem validateSessionContext_eq_ok_iff {context : HookResult} :
    validateSessionContext context = .ok () ↔ context.SafeMapping := by
  rcases context with _ | items | ⟨typeName, truthy⟩
  · simp [validateSessionContext, HookResult.SafeMapping]
  · refine ⟨safe_of_validateSessionContext, fun h => ?_⟩
    refine Raising.forM_eq_ok.mpr fun item hitem => ?_
    obtain ⟨name, hname, hsafe⟩ := h item hitem
    rw [hname, validateContextName, if_pos hsafe]
  · simp [validateSessionContext, HookResult.SafeMapping]

/-- The check raises on every other context. -/
theorem validateSessionContext_raises {context : HookResult} (h : ¬context.SafeMapping) :
    ∃ e, validateSessionContext context = .error e := by
  cases hchecked : validateSessionContext context with
  | error e => exact ⟨e, rfl⟩
  | ok u => exact absurd (validateSessionContext_eq_ok_iff.mp hchecked) h

/-- Such a context sends nothing. -/
theorem keeps_setContext_of_unchecked (answer : Statement → Except PyExc Unit) {context : HookResult}
    (h : ¬context.SafeMapping) : Keeps Eq (setContext answer context) := by
  obtain ⟨e, hraises⟩ := validateSessionContext_raises h
  rcases context with _ | items | ⟨typeName, truthy⟩
  · exact .pure (fun _ => rfl) _
  · rcases items with _ | ⟨item, rest⟩
    · exact absurd (by simp [HookResult.SafeMapping]) h
    · unfold setContext
      simp only [hraises]
      exact fun _ => rfl
  · rcases truthy with _ | _
    · exact .pure (fun _ => rfl) _
    · exact Keeps.call (fun _ => rfl) (validateSessionContext (.other typeName true))

/-- A statement that binds a context entry. -/
def Statement.IsSetConfig (statement : Statement) : Prop :=
  statement.sql = lit "SELECT set_config(%s, %s, true)"

omit [UnicodeDatabase] in
theorem not_isSetConfig_openingStatements {role : PyStr} :
    ∀ statement ∈ openingStatements role, ¬statement.IsSetConfig := by
  have hguards : ∀ guc ∈ expectedSessionGucs,
      lit "SET LOCAL " ++ guc.1 ++ lit " = '" ++ guc.2 ++ lit "'" ≠
        lit "SELECT set_config(%s, %s, true)" := by decide
  intro statement hmem heq
  rcases List.mem_cons.mp hmem with rfl | hguc
  · have hstarts := startsWith_append (lit "SET LOCAL ROLE ") role
    rw [show lit "SET LOCAL ROLE " ++ role = _ from heq] at hstarts
    exact absurd hstarts (by decide)
  · obtain ⟨guc, hentry, rfl⟩ := List.mem_map.mp hguc
    exact hguards guc hentry heq

/-- Entering a session with such a context binds nothing. -/
theorem no_setConfig_of_unchecked (answer : Statement → Except PyExc Unit) (role : PyStr)
    {context : HookResult} (h : ¬context.SafeMapping) :
    ∀ statement ∈ finalState ((enterReadonlySession answer role context).run []),
      ¬statement.IsSetConfig := by
  rw [enterReadonlySession_eq, finalState_bind_of_keeps fun _ => keeps_setContext_of_unchecked answer h]
  rcases run_forM_execute answer (openingStatements role) [] with hrun | ⟨e, pre, hpre, hrun⟩
  · rw [hrun]
    exact not_isSetConfig_openingStatements
  · rw [hrun]
    exact fun statement hmem => not_isSetConfig_openingStatements statement (hpre.mem hmem)

/-! ## Such a context as the result of a hook -/

variable {env : ExecutorEnv} {q : QueryCall} {context : HookResult}

/-- The hook's result is refused, unless it is `None`. -/
theorem resolveSessionContext_raises (hhook : callHook env q = .ok context)
    (hnone : context ≠ .none) (h : ¬context.SafeMapping) :
    ∃ e, resolveSessionContext env q = .error e := by
  obtain ⟨e, hraises⟩ := validateSessionContext_raises h
  refine ⟨e, ?_⟩
  unfold resolveSessionContext
  rw [hhook, Raising.ok_bind]
  rcases context with _ | items | ⟨typeName, truthy⟩
  · exact absurd rfl hnone
  · simp only [hraises]
    rfl
  · simp only [hraises]
    rfl

theorem keeps_wrappedSteps {e : PyExc} (hresolve : resolveSessionContext env q = .error e)
    (parsed : ParsedQuery) (wrappedSql : PyStr) (explicit : List ℤ) :
    Keeps Eq (wrappedSteps env q parsed wrappedSql explicit) := by
  unfold wrappedSteps
  split
  · exact .pure (fun _ => rfl) _
  · rw [hresolve]
    by_cases hexception : e.isException = true
    · simp only [hexception, if_true]
      exact Keeps.bind (R := Eq) (fun _ _ _ => Eq.trans) (.call (fun _ => rfl) _) fun _ =>
        .pure (fun _ => rfl) _
    · simp only [hexception]
      exact .raise (fun _ => rfl) _

theorem keeps_parsedSteps {e : PyExc} (hresolve : resolveSessionContext env q = .error e)
    (parsed : ParsedQuery) : Keeps Eq (parsedSteps env q parsed) := by
  unfold parsedSteps
  by_cases hzero : effectiveLimit env.settings.limits (explicitLimits q.limit parsed.ast) = 0
  · simp only [hzero, if_true]
    exact .pure (fun _ => rfl) _
  · simp only [hzero, if_false]
    split
    · exact keeps_wrappedSteps hresolve parsed _ _
    · exact .pure (fun _ => rfl) _
    · exact .raise (fun _ => rfl) _

/-- The steps of a query whose hook's result is refused send nothing. -/
theorem keeps_steps {e : PyExc} (hresolve : resolveSessionContext env q = .error e) :
    Keeps Eq (steps env q) := by
  unfold steps
  split
  · exact .pure (fun _ => rfl) _
  · refine Keeps.bind (R := Eq) (fun _ _ _ => Eq.trans) (.call (fun _ => rfl) _) fun allowed => ?_
    split
    · exact keeps_parsedSteps hresolve _
    · exact .pure (fun _ => rfl) _
    · exact .raise (fun _ => rfl) _

end Entered

section Queries

variable [UnicodeDatabase] {env : ExecutorEnv} {q : QueryCall} {context : HookResult}

/-- A query whose hook's result is refused sends nothing. -/
theorem executed_runQuery_of_unchecked (hhook : callHook env q = .ok context)
    (hnone : context ≠ .none) (h : ¬context.SafeMapping) (w : World) :
    (finalState ((runQuery env q).run w)).executed = w.executed := by
  obtain ⟨e, hresolve⟩ := resolveSessionContext_raises hhook hnone h
  rw [runQuery_eq, executed_audited, ← keeps_steps hresolve [], List.map_nil, List.append_nil]

/-- Its steps do not even open a transaction: they are the same on every connection. -/
theorem steps_of_connection {e : PyExc} (hresolve : resolveSessionContext env q = .error e)
    {connection : ReadConnection} (halias : connection.aliasName = env.connection.aliasName) :
    steps { env with connection := connection } q = steps env q := by
  have hresolve' : resolveSessionContext { env with connection := connection } q = .error e :=
    hresolve
  have hwrapped : ∀ parsed wrappedSql explicit,
      wrappedSteps { env with connection := connection } q parsed wrappedSql explicit =
        wrappedSteps env q parsed wrappedSql explicit := by
    intro parsed wrappedSql explicit
    unfold wrappedSteps
    rw [hresolve, hresolve', halias]
  have hparsed : ∀ parsed,
      parsedSteps { env with connection := connection } q parsed = parsedSteps env q parsed := by
    intro parsed
    unfold parsedSteps
    simp only [hwrapped]
  unfold steps
  simp only [hparsed]
  rfl

/-- A session that is entered under a role's name has that role, the guards and its context set, and
nothing else.  A context that is no mapping of safe names binds nothing, and as the result of a hook
it sends nothing to the read database. -/
theorem session_sets_exactly (rules : NameRules) (word role : PyStr) (context : HookResult)
    (hrole : rules.unquoted word = some role) (hdistinct : context.DistinctNames) :
    (∀ answer s sent, (enterReadonlySession answer word context).run [] = .ok () sent →
        SetsExactly role context s (sessionAfter rules s sent)) ∧
      (¬context.SafeMapping →
        (∀ answer, ∀ statement ∈ finalState ((enterReadonlySession answer word context).run []),
          ¬statement.IsSetConfig) ∧
        (context ≠ .none → ∀ env q, callHook env q = .ok context →
          (∀ w, (finalState ((runQuery env q).run w)).executed = w.executed) ∧
          ∀ connection : ReadConnection, connection.aliasName = env.connection.aliasName →
            runQuery { env with connection := connection } q = runQuery env q)) := by
  refine ⟨fun answer s sent h => setsExactly_of_enterReadonlySession hrole s hdistinct h, ?_⟩
  intro hunchecked
  refine ⟨fun answer => no_setConfig_of_unchecked answer word hunchecked, ?_⟩
  intro hnone env q hhook
  refine ⟨executed_runQuery_of_unchecked hhook hnone hunchecked, fun connection halias => ?_⟩
  obtain ⟨e, hresolve⟩ := resolveSessionContext_raises hhook hnone hunchecked
  rw [runQuery_eq, runQuery_eq, steps_of_connection hresolve halias]
  rfl

end Queries

/-- A hook's result that names the caller's tenant. -/
def tenantContext : HookResult :=
  .mapping [⟨.str (lit "mcp_sql.tenant"), .ok (lit "42")⟩]

/-- The session of a tenant is entered on a healthy connection. -/
theorem session_sets_exactly_tenant :
    letI := asciiDatabase
    ∃ sent, (enterReadonlySession (fun _ => .ok ()) (lit "mcp_readonly_role") tenantContext).run [] =
        .ok () sent ∧
      ∀ s, SetsExactly (lit "mcp_readonly_role") tenantContext s
        (sessionAfter roleWordRules s sent) := by
  let _ := asciiDatabase
  have hrole : roleWordRules.unquoted (lit "mcp_readonly_role") =
      some (lit "mcp_readonly_role") := by decide
  have hdistinct : tenantContext.DistinctNames := List.pairwise_singleton _ _
  refine ⟨_, rfl, fun s => ?_⟩
  exact (session_sets_exactly roleWordRules _ _ tenantContext hrole hdistinct).1
    (fun _ => .ok ()) s _ rfl

/-- A call under a profile with a hook. -/
def hookedCall : QueryCall :=
  let call := exampleCall "SELECT x FROM notes" none
  { call with profile := { call.profile with
      sessionContext := some (lit "app.mcp.session_context") } }

/-- `None` is no mapping, but a query whose hook returns it is run. -/
theorem none_hook_result_runs :
    ¬∀ (_ : UnicodeDatabase) (env : ExecutorEnv) (q : QueryCall) (context : HookResult) (w : World),
      callHook env q = .ok context → ¬context.SafeMapping →
        (finalState ((runQuery env q).run w)).executed = w.executed := by
  intro hidle
  let _ := asciiDatabase
  let env := exampleExecutorEnv (Sqlglot.on plainQuery (lit "SELECT x FROM notes")) fun _ => []
  have hsent : (finalState ((runQuery env hookedCall).run emptyWorld)).executed ≠
      emptyWorld.executed := by decide
  exact hsent (hidle asciiDatabase env hookedCall .none emptyWorld rfl fun h => h)

end McpSql
