import McpSql.Executor.Ending
import McpSql.Foundations.Raising

/-!
# One audit attempt on every path

`run_query` attempts one `MCPQueryLog` row exactly when each of its steps ends in a way the code
provides for.  An exception of any other class leaves no attempt; no path makes two.
-/

namespace McpSql

open Python PyStr Effect Raising

/-- A call makes exactly one attempt to insert an audit row. -/
def AttemptsOnce [UnicodeDatabase] (env : ExecutorEnv) (q : QueryCall) (w : World) : Prop :=
  ∃ row, (finalState ((runQuery env q).run w)).queryLogAttempts = w.queryLogAttempts ++ [row]

/-! ## The attempts of audited steps -/

/-- Steps that lead to an ending. -/
def Returns (x : Session Ending) : Prop := ∃ ending, outcome (x.run []) = .ok ending

theorem returns_pure (ending : Ending) : Returns (pure ending) := ⟨ending, rfl⟩

theorem not_returns_raise (e : PyExc) : ¬Returns (raise e) := by
  rintro ⟨ending, h⟩
  simp at h

theorem returns_call_bind {α : Type} {r : Except PyExc α} {f : α → Session Ending} :
    Returns (call r >>= f) ↔ ∃ a, r = .ok a ∧ Returns (f a) := by
  unfold Returns
  simp only [outcome_call_bind, bind_eq_ok]
  constructor
  · rintro ⟨ending, a, hr, hending⟩
    exact ⟨a, hr, ending, hending⟩
  · rintro ⟨a, hr, ending, hending⟩
    exact ⟨ending, a, hr, hending⟩

theorem returns_attempt_bind {α : Type} {x : Session α}
    {f : Except PyExc α → Except PyExc Ending} :
    Returns (attempt x >>= fun r => call (f r)) ↔
      ∃ ending, f (outcome (x.run [])) = .ok ending := by
  unfold Returns
  rw [outcome_attempt_bind]

/-- The row of the ending is the one attempt; an exception leaves none. -/
theorem queryLogAttempts_audited (env : ExecutorEnv) (q : QueryCall) (x : Session Ending)
    (w : World) : (finalState ((audited env q x).run w)).queryLogAttempts =
      w.queryLogAttempts ++
        match outcome (x.run []) with
        | .ok ending => [ending.row env q]
        | .error _ => [] := by
  rw [run_audited]
  cases x.run [] with
  | ok ending sent =>
    obtain ⟨log, hfinal⟩ := finalState_conclude env q ending
      { w with executed := w.executed ++ sent.map Statement.sql }
    show (finalState ((conclude env q ending).run _)).queryLogAttempts = _
    rw [hfinal, queryLogAttempts_auditSafely]
    rfl
  | error e sent => simp

/-- Audited steps make exactly one attempt when they lead to an ending. -/
theorem attempts_audited_iff (env : ExecutorEnv) (q : QueryCall) (x : Session Ending) (w : World) :
    (∃ row, (finalState ((audited env q x).run w)).queryLogAttempts =
      w.queryLogAttempts ++ [row]) ↔ Returns x := by
  have hattempts := queryLogAttempts_audited env q x w
  cases hx : outcome (x.run []) with
  | ok ending =>
    rw [hx] at hattempts
    exact ⟨fun _ => ⟨ending, hx⟩, fun _ => ⟨_, hattempts⟩⟩
  | error e =>
    rw [hx] at hattempts
    constructor
    · rintro ⟨row, hrow⟩
      rw [hattempts] at hrow
      simp at hrow
    · rintro ⟨ending, hending⟩
      rw [hx] at hending
      simp at hending

/-! ## The endings the code provides for -/

/-- What `parse_and_validate` turns into a rejection where it calls `sqlglot.parse`. -/
def PyExc.isParseRejection (e : PyExc) : Bool :=
  e.isParseError || e.isRecursionError || e.isQueryRejected

/-- What it turns into a rejection where it calls `ast.sql`. -/
def PyExc.isSerializeRejection (e : PyExc) : Bool := e.isRecursionError || e.isQueryRejected

/-- A hook failure that can be written into the audit row. -/
def PyExc.isPrintable (e : PyExc) : Bool := e.isException && e.str.toBool

section StepsHandled

variable [UnicodeDatabase]

/-- sqlglot raises only what `parse_and_validate` turns into a rejection. -/
def ParseHandled (sqlglot : Sqlglot) (rawSql : PyStr) (allowed : Finset PyStr) (ban : Bool) :
    Prop :=
  Confined PyExc.isParseRejection (sqlglot.parse rawSql) ∧
    ∀ parsed ast tables, sqlglot.parse rawSql = .ok parsed →
      singleQuery (realStatements parsed) = .ok ast → checkStatement ast allowed ban = .ok tables →
        Confined PyExc.isSerializeRejection (sqlglot.sql ast true)

/-- The read raises only a `DatabaseError`, and the rows it returns can be capped. -/
def ReadHandled (env : ExecutorEnv) (q : QueryCall) (wrappedSql : PyStr) (explicit : List ℤ)
    (sessionContext : HookResult) : Prop :=
  let read := outcome
    ((readTransaction env.connection q.profile.role sessionContext wrappedSql).run [])
  Confined PyExc.isDatabaseError read ∧
    ∀ rawRows columns, read = .ok (rawRows, columns) →
      ∃ capped, capRows env.settings.limits.bytesLimit
        (rawRows.take (effectiveLimit env.settings.limits explicit).toNat) = .ok capped

/-- The hook raises only an `Exception` that can be printed, and the read is handled. -/
def WrappedHandled (env : ExecutorEnv) (q : QueryCall) (wrappedSql : PyStr)
    (explicit : List ℤ) : Prop :=
  env.connection.aliasName = env.settings.dbAlias →
    Confined PyExc.isPrintable (resolveSessionContext env q) ∧
      ∀ sessionContext, resolveSessionContext env q = .ok sessionContext →
        ReadHandled env q wrappedSql explicit sessionContext

/-- Unless the limit is zero, its injection raises only a `RecursionError`, and what follows is
handled. -/
def ParsedHandled (env : ExecutorEnv) (q : QueryCall) (parsed : ParsedQuery) : Prop :=
  let explicit := explicitLimits q.limit parsed.ast
  let effective := effectiveLimit env.settings.limits explicit
  effective ≠ 0 →
    Confined PyExc.isRecursionError (wrapSql env.sqlglot parsed.ast (effective + 1)) ∧
      ∀ wrappedSql, wrapSql env.sqlglot parsed.ast (effective + 1) = .ok wrappedSql →
        WrappedHandled env q wrappedSql explicit

/-- Unless the alias is absent, the profile's models resolve, and each further step that is reached
ends in a way `run_query` provides for. -/
def StepsHandled (env : ExecutorEnv) (q : QueryCall) : Prop :=
  env.aliasConfigured = true →
    (∀ entry ∈ q.profile.allowedModels, ∃ table, env.getModel entry = .ok table) ∧
      ∀ allowed, allowedTables env q.profile = .ok allowed →
        ParseHandled env.sqlglot q.rawSql allowed env.settings.banSelectStar ∧
          ∀ parsed, parseAndValidate env.sqlglot q.rawSql allowed env.settings.banSelectStar =
            .ok parsed → ParsedHandled env q parsed

end StepsHandled

/-! ## Step by step -/

/-- The handlers around `sqlglot.parse`. -/
theorem confined_parseStatements_iff (sqlglot : Sqlglot) (rawSql : PyStr) :
    Confined PyExc.isQueryRejected (parseStatements sqlglot rawSql) ↔
      Confined PyExc.isParseRejection (sqlglot.parse rawSql) := by
  unfold parseStatements
  cases sqlglot.parse rawSql with
  | ok parsed => simp
  | error e =>
    cases e <;> simp [PyExc.isParseRejection, PyExc.isParseError, PyExc.isRecursionError,
      PyExc.isQueryRejected]

/-- The handler around `ast.sql`. -/
theorem confined_normalizeSql_iff (sqlglot : Sqlglot) (ast : Expression) :
    Confined PyExc.isQueryRejected (normalizeSql sqlglot ast) ↔
      Confined PyExc.isSerializeRejection (sqlglot.sql ast true) := by
  unfold normalizeSql
  cases sqlglot.sql ast true with
  | ok text => simp
  | error e =>
    cases e <;> simp [PyExc.isSerializeRejection, PyExc.isRecursionError, PyExc.isQueryRejected]

/-- The parse returns what sqlglot returned. -/
theorem parseStatements_eq_ok {sqlglot : Sqlglot} {rawSql : PyStr}
    {parsed : List (Option Expression)} :
    parseStatements sqlglot rawSql = .ok parsed ↔ sqlglot.parse rawSql = .ok parsed := by
  unfold parseStatements
  cases sqlglot.parse rawSql with
  | ok parsed' => simp
  | error e => cases e <;> simp

/-- `declared_tables` returns when every model resolves. -/
theorem declaredTables_returns_iff (env : ExecutorEnv) (profile : Profile) :
    (∃ tables, declaredTables env profile = .ok tables) ↔
      ∀ entry ∈ profile.allowedModels, ∃ table, env.getModel entry = .ok table := by
  have hentry : ∀ entry, (∃ pair, (entry, ·) <$> env.getModel entry = .ok pair) ↔
      ∃ table, env.getModel entry = .ok table := by
    intro entry
    cases env.getModel entry with
    | ok table => simp [Functor.map, Except.map]
    | error e => simp [Functor.map, Except.map]
  simp only [← hentry]
  rw [← mapM_returns_iff]
  unfold declaredTables
  constructor
  · rintro ⟨tables, h⟩
    obtain ⟨pairs, hpairs, -⟩ := bind_eq_ok.mp h
    exact ⟨pairs, hpairs⟩
  · rintro ⟨pairs, hpairs⟩
    exact ⟨pairs.eraseDups, bind_eq_ok.mpr ⟨pairs, hpairs, rfl⟩⟩

/-- The whitelist is known when every model resolves. -/
theorem allowedTables_returns_iff (env : ExecutorEnv) (profile : Profile) :
    (∃ allowed, allowedTables env profile = .ok allowed) ↔
      ∀ entry ∈ profile.allowedModels, ∃ table, env.getModel entry = .ok table := by
  rw [← declaredTables_returns_iff]
  unfold allowedTables
  constructor
  · rintro ⟨allowed, h⟩
    obtain ⟨tables, htables, -⟩ := bind_eq_ok.mp h
    exact ⟨tables, htables⟩
  · rintro ⟨tables, htables⟩
    exact ⟨_, bind_eq_ok.mpr ⟨tables, htables, rfl⟩⟩

section Returns

variable [UnicodeDatabase]

/-- `parse_and_validate` raises nothing but rejections when sqlglot keeps to the classes it
handles. -/
theorem confined_parseAndValidate_iff (sqlglot : Sqlglot) (rawSql : PyStr)
    (allowed : Finset PyStr) (ban : Bool) :
    Confined PyExc.isQueryRejected (parseAndValidate sqlglot rawSql allowed ban) ↔
      ParseHandled sqlglot rawSql allowed ban := by
  have hrejects : ∀ {α : Type} (x : Except QueryRejectedError α),
      Confined PyExc.isQueryRejected (x.mapError PyExc.queryRejected) :=
    confined_mapError fun _ => rfl
  unfold parseAndValidate ParseHandled
  simp only [confined_bind, confined_parseStatements_iff, confined_normalizeSql_iff, hrejects,
    parseStatements_eq_ok, mapError_eq_ok, true_and]
  refine and_congr_right fun _ => ?_
  constructor
  · intro h parsed ast tables hparse hsingle hcheck
    exact (h parsed hparse ast hsingle tables hcheck).1
  · intro h parsed hparse ast hsingle tables hcheck
    exact ⟨h parsed ast tables hparse hsingle hcheck, fun normalizedSql _ => confined_ok _ _⟩

/-- The read leads to an ending when it is handled. -/
theorem readEnding_returns_iff (env : ExecutorEnv) (q : QueryCall) (normalizedSql wrappedSql : PyStr)
    (explicit : List ℤ) (sessionContext : HookResult) :
    (∃ ending, readEnding env normalizedSql wrappedSql explicit (outcome
      ((readTransaction env.connection q.profile.role sessionContext wrappedSql).run [])) =
        .ok ending) ↔ ReadHandled env q wrappedSql explicit sessionContext := by
  unfold ReadHandled
  cases outcome ((readTransaction env.connection q.profile.role sessionContext wrappedSql).run [])
    with
  | ok read =>
    obtain ⟨rawRows, columns⟩ := read
    simp only [readEnding, confined_ok, true_and]
    constructor
    · rintro ⟨ending, h⟩ rawRows' columns' hread
      obtain ⟨rfl, rfl⟩ : rawRows = rawRows' ∧ columns = columns' := by simpa using hread
      obtain ⟨capped, hcapped, -⟩ := bind_eq_ok.mp h
      exact ⟨capped, hcapped⟩
    · intro h
      obtain ⟨capped, hcapped⟩ := h rawRows columns rfl
      exact ⟨_, bind_eq_ok.mpr ⟨capped, hcapped, rfl⟩⟩
  | error e =>
    cases e <;> simp [readEnding, PyExc.isDatabaseError, PyExc.str, bind, Except.bind, pure,
      Except.pure]

theorem returns_wrappedSteps_iff (env : ExecutorEnv) (q : QueryCall) (parsed : ParsedQuery)
    (wrappedSql : PyStr) (explicit : List ℤ) :
    Returns (wrappedSteps env q parsed wrappedSql explicit) ↔
      WrappedHandled env q wrappedSql explicit := by
  unfold wrappedSteps WrappedHandled
  by_cases halias : env.connection.aliasName = env.settings.dbAlias
  · rw [if_neg (not_not.mpr halias)]
    simp only [halias, true_implies]
    cases resolveSessionContext env q with
    | ok sessionContext =>
      rw [returns_attempt_bind, readEnding_returns_iff env q]
      simp
    | error e =>
      rw [confined_error]
      by_cases hexception : e.isException = true
      · simp only [hexception, if_true, returns_call_bind, PyExc.isPrintable]
        cases e.str with
        | ok text => simp [returns_pure, Except.toBool]
        | error e' => simp [Except.toBool]
      · simp [hexception, not_returns_raise, PyExc.isPrintable]
  · rw [if_pos halias]
    simp [halias, returns_pure]

theorem returns_parsedSteps_iff (env : ExecutorEnv) (q : QueryCall) (parsed : ParsedQuery) :
    Returns (parsedSteps env q parsed) ↔ ParsedHandled env q parsed := by
  unfold parsedSteps ParsedHandled
  by_cases hzero : effectiveLimit env.settings.limits (explicitLimits q.limit parsed.ast) = 0
  · simp [hzero, returns_pure]
  · simp only [hzero, if_false, ne_eq, not_false_eq_true, true_implies]
    cases wrapSql env.sqlglot parsed.ast
        (effectiveLimit env.settings.limits (explicitLimits q.limit parsed.ast) + 1) with
    | ok wrappedSql => simp [returns_wrappedSteps_iff]
    | error e =>
      cases e <;> simp [PyExc.isRecursionError, returns_pure, not_returns_raise]

theorem returns_steps_iff (env : ExecutorEnv) (q : QueryCall) :
    Returns (steps env q) ↔ StepsHandled env q := by
  unfold steps StepsHandled
  cases env.aliasConfigured with
  | false => simp [returns_pure]
  | true =>
    simp only [Bool.not_true, Bool.false_eq_true, if_false, returns_call_bind, true_implies]
    rw [← allowedTables_returns_iff]
    constructor
    · rintro ⟨allowed, hallowed, h⟩
      refine ⟨⟨allowed, hallowed⟩, ?_⟩
      intro allowed' hallowed'
      obtain rfl : allowed = allowed' := by simpa using hallowed.symm.trans hallowed'
      rw [← confined_parseAndValidate_iff]
      cases hparse : parseAndValidate env.sqlglot q.rawSql allowed env.settings.banSelectStar with
      | ok parsed =>
        rw [hparse] at h
        simpa using (returns_parsedSteps_iff env q parsed).mp h
      | error e =>
        rw [hparse] at h
        cases e <;> simp_all [PyExc.isQueryRejected, not_returns_raise]
    · rintro ⟨⟨allowed, hallowed⟩, h⟩
      refine ⟨allowed, hallowed, ?_⟩
      obtain ⟨hrejects, hparsed⟩ := h allowed hallowed
      rw [← confined_parseAndValidate_iff] at hrejects
      cases hparse : parseAndValidate env.sqlglot q.rawSql allowed env.settings.banSelectStar with
      | ok parsed => exact (returns_parsedSteps_iff env q parsed).mpr (hparsed parsed hparse)
      | error e =>
        have hrejected := hrejects e hparse
        cases e <;> simp_all [PyExc.isQueryRejected, returns_pure]

/-- A call attempts exactly one audit row exactly when each of its steps ends in a way `run_query`
provides for. -/
theorem audit_once_iff (env : ExecutorEnv) (q : QueryCall) (w : World) :
    AttemptsOnce env q w ↔ StepsHandled env q := by
  unfold AttemptsOnce
  rw [runQuery_eq, attempts_audited_iff]
  exact returns_steps_iff env q

end Returns

/-- sqlglot's answer to an unterminated string. -/
def unterminatedSqlglot : Sqlglot where
  parse _ := .error (.tokenError (lit "Missing ' from 1:7"))
  sql _ _ := .ok []
  limit ast _ := .ok ast

/-- An unterminated string makes sqlglot's tokenizer raise, and no attempt is made. -/
theorem audit_not_always_once :
    ¬∀ (_ : UnicodeDatabase) (env : ExecutorEnv) (q : QueryCall) (w : World),
      AttemptsOnce env q w := by
  intro honce
  let _ := asciiDatabase
  obtain ⟨row, hrow⟩ := honce asciiDatabase
    (exampleExecutorEnv unterminatedSqlglot fun _ => []) (exampleCall "SELECT 'abc" none) emptyWorld
  have hnone : (finalState ((runQuery (exampleExecutorEnv unterminatedSqlglot fun _ => [])
      (exampleCall "SELECT 'abc" none)).run emptyWorld)).queryLogAttempts = [] := rfl
  rw [hnone] at hrow
  simp at hrow

end McpSql
