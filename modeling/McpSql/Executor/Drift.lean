import Mathlib.Data.List.Forall2
import McpSql.Executor.Session
import McpSql.Postgres.Session

/-!
# The session a cursor is in

What the statements of `enter_readonly_session` do to the session of the database, and
`session_drift`, which compares that session with what was asked for.
-/

namespace McpSql

open Python PyStr Effect Postgres

/-! ## Statements as commands -/

/-- The statement that binds a context entry. -/
def setConfigStatement (entry : PyStr × PyStr) : Statement :=
  ⟨lit "SELECT set_config(%s, %s, true)", [entry.1, entry.2]⟩

/-- What a statement of a session asks for, read from its text. -/
def Statement.command (statement : Statement) : Option Command :=
  if startsWith (lit "SET LOCAL ROLE ") statement.sql then
    some (.setRole (statement.sql.drop (lit "SET LOCAL ROLE ").length))
  else if startsWith (lit "SET LOCAL ") statement.sql then
    let (name, _, value) := partition 0x3d (statement.sql.drop (lit "SET LOCAL ").length)
    -- a blank on either side of the sign, and the value in quotes
    some (.set name.dropLast (value.drop 2).dropLast)
  else
    match statement.params with
    | [name, value] => some (.set name value)
    | _ => none

/-- The session after statements that were sent. -/
def sessionAfter (rules : NameRules) (s : SessionState) (sent : List Statement) : SessionState :=
  s.run rules (sent.filterMap Statement.command)

/-- `session_drift`: for each entry that does not match, what is expected and what is found. -/
def sessionDrift (s : SessionState) (expectedRole : PyStr) : List (PyStr × PyStr × PyStr) :=
  (if s.currentUser ≠ expectedRole then
    [(lit "current_user", expectedRole, s.currentUser)] else []) ++
  expectedSessionGucs.filterMap fun guc =>
    if s.setting guc.1 ≠ guc.2 then some (guc.1, guc.2, s.setting guc.1) else none

/-- The role is reported exactly when it is another one. -/
theorem currentUser_mem_sessionDrift_iff (s : SessionState) (expectedRole : PyStr) :
    lit "current_user" ∈ (sessionDrift s expectedRole).map Prod.fst ↔
      s.currentUser ≠ expectedRole := by
  have hgucs : lit "current_user" ∉ expectedSessionGucs.map Prod.fst := by decide
  unfold sessionDrift
  rw [List.map_append, List.mem_append]
  constructor
  · rintro (hrole | hguc)
    · by_contra heq
      simp [heq] at hrole
    · obtain ⟨entry, hentry, hname⟩ := List.mem_map.mp hguc
      obtain ⟨guc, hmem, hfound⟩ := List.mem_filterMap.mp hentry
      have hfirst : guc.1 = entry.1 := by
        by_cases hne : s.setting guc.1 ≠ guc.2
        · rw [if_pos hne] at hfound
          rw [← Option.some.inj hfound]
        · simp [hne] at hfound
      exact absurd (List.mem_map.mpr ⟨guc, hmem, hfirst.trans hname⟩) hgucs
  · intro hne
    exact Or.inl (by simp [hne])

/-! ## What is sent on entry -/

theorem command_setRole (role : PyStr) :
    Statement.command ⟨lit "SET LOCAL ROLE " ++ role, []⟩ = some (.setRole role) := by
  unfold Statement.command
  rw [if_pos (startsWith_append _ role), List.drop_left]

theorem command_setConfigStatement (entry : PyStr × PyStr) :
    (setConfigStatement entry).command = some (.set entry.1 entry.2) := rfl

/-- The commands that open a session: its role, and the guards. -/
theorem commands_openingStatements (role : PyStr) :
    (openingStatements role).filterMap Statement.command =
      .setRole role :: expectedSessionGucs.map fun guc => .set guc.1 guc.2 := by
  have hgucs : (expectedSessionGucs.map fun guc => (⟨lit "SET LOCAL " ++ guc.1 ++ lit " = '" ++
      guc.2 ++ lit "'", []⟩ : Statement)).filterMap Statement.command =
      expectedSessionGucs.map fun guc => .set guc.1 guc.2 := by decide
  unfold openingStatements
  rw [List.filterMap_cons_some (command_setRole role), hgucs]

theorem commands_setConfigStatements (entries : List (PyStr × PyStr)) :
    (entries.map setConfigStatement).filterMap Statement.command =
      entries.map fun entry => .set entry.1 entry.2 := by
  rw [List.filterMap_map, ← List.filterMap_eq_map]
  exact List.filterMap_congr fun entry _ => command_setConfigStatement entry

/-- The entries a context binds: under a safe name, the text of each value. -/
def HookResult.Binds (entries : List (PyStr × PyStr)) : HookResult → Prop
  | .mapping items => List.Forall₂ (fun item entry => item.name = .str entry.1 ∧
      isSafeContextName entry.1 = true ∧ item.value = .ok entry.2) items entries
  | _ => entries = []

/-- The names of a context are settings of their own. -/
theorem ordinarySetting_of_isSafeContextName {name : PyStr} (h : isSafeContextName name = true) :
    OrdinarySetting name := by
  obtain ⟨hstarts, -⟩ := Bool.and_eq_true_iff.mp h
  obtain ⟨suffix, rfl⟩ := List.isPrefixOf_iff_prefix.mp hstarts
  have hlower : downcase (lit "mcp_sql." ++ suffix) = lit "mcp_sql." ++ downcase suffix :=
    List.map_append
  constructor
  · intro heq
    rw [hlower] at heq
    exact absurd (List.cons.inj heq).1 (by decide)
  · intro heq
    rw [hlower] at heq
    exact absurd (List.cons.inj heq).1 (by decide)

theorem HookResult.Binds.safe {context : HookResult} {entries : List (PyStr × PyStr)}
    (h : context.Binds entries) : ∀ entry ∈ entries, isSafeContextName entry.1 = true := by
  rcases context with _ | items | ⟨typeName, truthy⟩
  · obtain rfl : entries = [] := h
    simp
  · intro entry hentry
    obtain ⟨item, -, -, hsafe, -⟩ := Raising.exists_of_forall₂_right h hentry
    exact hsafe
  · obtain rfl : entries = [] := h
    simp

theorem ordinarySetting_expectedSessionGucs :
    ∀ guc ∈ expectedSessionGucs, OrdinarySetting guc.1 := by decide

/-- What entering a session sets are settings of their own. -/
theorem HookResult.Binds.ordinarySetting {context : HookResult} {entries : List (PyStr × PyStr)}
    (h : context.Binds entries) :
    ∀ entry ∈ expectedSessionGucs ++ entries, OrdinarySetting entry.1 := by
  intro entry hentry
  rcases List.mem_append.mp hentry with hguc | hcontext
  · exact ordinarySetting_expectedSessionGucs entry hguc
  · exact ordinarySetting_of_isSafeContextName (h.safe entry hcontext)

/-- The session after the opening statements and the entries of a context: the role is taken, then
each of the settings is set. -/
theorem sessionAfter_entered (rules : NameRules) (s : SessionState) (word : PyStr)
    (entries : List (PyStr × PyStr)) :
    sessionAfter rules s (openingStatements word ++ entries.map setConfigStatement) =
      (s.apply rules (.setRole word)).run rules
        ((expectedSessionGucs ++ entries).map fun entry => .set entry.1 entry.2) := by
  unfold sessionAfter
  rw [List.filterMap_append, commands_openingStatements, commands_setConfigStatements,
    List.cons_append, ← List.map_append, SessionState.run_cons]

section Entered

variable {answer : Statement → Except PyExc Unit}

/-- Binding an entry sends its statement. -/
theorem sent_of_setContextItem {item : ContextItem} {name : PyStr} (hname : item.name = .str name)
    {sent sent' : List Statement} {u : Unit}
    (h : (setContextItem answer item).run sent = .ok u sent') :
    ∃ value, item.value = .ok value ∧ sent' = sent ++ [setConfigStatement (name, value)] := by
  unfold setContextItem at h
  rw [hname] at h
  cases hvalue : item.value with
  | error e => simp [hvalue] at h
  | ok value =>
    refine ⟨value, rfl, ?_⟩
    have hsent := finalState_execute answer (setConfigStatement (name, value)) sent
    have hrun : (execute answer (setConfigStatement (name, value))).run sent = .ok u sent' := by
      simpa [hvalue, setConfigStatement] using h
    rw [hrun] at hsent
    exact hsent

theorem sent_of_forM_setContextItem {items : List ContextItem}
    (hnames : ∀ item ∈ items, ∃ name, item.name = .str name ∧ isSafeContextName name = true)
    {sent sent' : List Statement} {u : PUnit}
    (h : (forM items (setContextItem answer)).run sent = .ok u sent') :
    ∃ entries, HookResult.Binds entries (.mapping items) ∧
      sent' = sent ++ entries.map setConfigStatement := by
  induction items generalizing sent with
  | nil =>
    obtain ⟨-, rfl⟩ := EStateM.Result.ok.inj h
    exact ⟨[], .nil, (List.append_nil _).symm⟩
  | cons item rest ih =>
    obtain ⟨name, hname, hsafe⟩ := hnames item List.mem_cons_self
    rw [List.forM_cons] at h
    obtain ⟨v, s, hrun, hrest⟩ := run_bind_eq_ok.mp h
    obtain ⟨value, hvalue, rfl⟩ := sent_of_setContextItem hname hrun
    obtain ⟨entries, hbinds, rfl⟩ := ih (fun i hi => hnames i (List.mem_cons_of_mem _ hi)) hrest
    refine ⟨(name, value) :: entries, .cons ⟨hname, hsafe, hvalue⟩ hbinds, ?_⟩
    rw [List.append_assoc]
    rfl

variable [UnicodeDatabase]

/-- The names of a checked mapping are safe. -/
theorem safe_of_validateSessionContext {items : List ContextItem} {u : Unit}
    (h : validateSessionContext (.mapping items) = .ok u) :
    ∀ item ∈ items, ∃ name, item.name = .str name ∧ isSafeContextName name = true := by
  intro item hitem
  obtain ⟨name, hname⟩ := names_of_validateSessionContext h item hitem
  refine ⟨name, hname, ?_⟩
  have hchecked := Raising.forM_eq_ok.mp h item hitem
  rw [hname] at hchecked
  by_contra hunsafe
  simp [validateContextName, hunsafe] at hchecked

/-- A context that is set has bound its entries. -/
theorem sent_of_setContext {context : HookResult} {sent sent' : List Statement} {u : Unit}
    (h : (setContext answer context).run sent = .ok u sent') :
    ∃ entries, context.Binds entries ∧ sent' = sent ++ entries.map setConfigStatement := by
  have hnothing : sent' = sent → sent' = sent ++ ([] : List (PyStr × PyStr)).map setConfigStatement :=
    fun hsent => by rw [hsent, List.map_nil, List.append_nil]
  cases context with
  | none =>
    obtain ⟨-, rfl⟩ := EStateM.Result.ok.inj h
    exact ⟨[], rfl, hnothing rfl⟩
  | other typeName truthy =>
    cases truthy with
    | true => simp [setContext, validateSessionContext] at h
    | false =>
      obtain ⟨-, rfl⟩ := EStateM.Result.ok.inj h
      exact ⟨[], rfl, hnothing rfl⟩
  | mapping items =>
    cases items with
    | nil =>
      obtain ⟨-, rfl⟩ := EStateM.Result.ok.inj h
      exact ⟨[], .nil, hnothing rfl⟩
    | cons item rest =>
      have hrun : (call (validateSessionContext (.mapping (item :: rest))) >>= fun _ =>
          forM (item :: rest) (setContextItem answer)).run sent = .ok u sent' := h
      obtain ⟨v, s, hcall, hrest⟩ := run_bind_eq_ok.mp hrun
      obtain ⟨hchecked, rfl⟩ := run_call_eq_ok.mp hcall
      exact sent_of_forM_setContextItem (safe_of_validateSessionContext hchecked) hrest

/-- A session that is entered was sent the opening statements and the entries of its context. -/
theorem sent_of_enterReadonlySession {role : PyStr} {context : HookResult} {sent : List Statement}
    {u : Unit} (h : (enterReadonlySession answer role context).run [] = .ok u sent) :
    ∃ entries, context.Binds entries ∧
      sent = openingStatements role ++ entries.map setConfigStatement := by
  rw [enterReadonlySession_eq, EStateM.run_bind] at h
  rcases run_forM_execute answer (openingStatements role) [] with hrun | ⟨e, pre, -, hrun⟩
  · rw [hrun] at h
    exact sent_of_setContext h
  · simp [hrun] at h

/-- A session that is entered runs as the role its unquoted name denotes, whatever it ran as before
and whatever its context binds. -/
theorem currentUser_of_enterReadonlySession {rules : NameRules} {word role : PyStr}
    (hrole : rules.unquoted word = some role) (s : SessionState) {context : HookResult}
    {sent : List Statement} {u : Unit}
    (h : (enterReadonlySession answer word context).run [] = .ok u sent) :
    (sessionAfter rules s sent).currentUser = role := by
  obtain ⟨entries, hbinds, rfl⟩ := sent_of_enterReadonlySession h
  rw [sessionAfter_entered, currentUser_run_set _ hbinds.ordinarySetting,
    currentUser_apply_setRole _ hrole]

/-- Right after entry `session_drift` reports the role exactly when its name denotes another one. -/
theorem drifted_iff_of_enterReadonlySession {rules : NameRules} {word role : PyStr}
    (hrole : rules.unquoted word = some role) (s : SessionState) {context : HookResult}
    {sent : List Statement} {u : Unit}
    (h : (enterReadonlySession answer word context).run [] = .ok u sent) :
    lit "current_user" ∈ (sessionDrift (sessionAfter rules s sent) word).map Prod.fst ↔
      role ≠ word := by
  rw [currentUser_mem_sessionDrift_iff, currentUser_of_enterReadonlySession hrole s h]

end Entered

end McpSql
