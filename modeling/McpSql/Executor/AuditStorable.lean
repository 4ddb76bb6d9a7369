import McpSql.Executor.AuditOnce
import McpSql.Executor.Tools
import McpSql.Python.JsonLength
import McpSql.Registration.Redirects

/-!
# Storable audit rows

The values of an audit row come from the registration of a client, the settings, the request, sqlglot,
the database and the clock.  A healthy database stores the row, and the volume tripwire counts it,
exactly when each of them fits its column; nothing compares them with the columns beforehand.
-/

namespace McpSql

open Python PyStr Effect Raising GreedyPrefix

/-! ## Rows and columns -/

/-- A text that a `CharField` of a given length holds. -/
def FitsChar (length : ℕ) (s : PyStr) : Prop := s.length ≤ length ∧ isClean s = true

instance (length : ℕ) (s : PyStr) : Decidable (FitsChar length s) := by
  unfold FitsChar
  infer_instance

/-- An address that is absent, empty or read by the database. -/
def FitsAddress (inet : InetInput) (address : Option PyStr) : Prop :=
  address = none ∨ address = some [] ∨ ∃ s, address = some s ∧ inet s = .ok ()

theorem insertAddress_eq_ok {inet : InetInput} {address : Option PyStr} :
    insertAddress inet address = .ok () ↔ FitsAddress inet address := by
  unfold FitsAddress
  cases address with
  | none => simp [insertAddress]
  | some s =>
    by_cases hempty : s = []
    · simp [insertAddress, hempty]
    · simp [insertAddress, hempty]

/-- A query log row is storable when each of its values fits. -/
theorem storable_queryLogRow_iff (inet : InetInput) (r : QueryLogRow) :
    r.columns.Storable inet ↔
      FitsAddress inet r.clientIp ∧
      (isClean r.rawSql = true ∧ isClean r.normalizedSql = true ∧ isClean r.wrappedSql = true ∧
        isClean r.error = true) ∧
      (FitsChar 64 r.tokenId ∧ FitsChar 16 r.decision.value ∧ FitsChar 32 r.tool ∧
        FitsChar 64 r.profile ∧ FitsChar 64 r.rejectionReason ∧ FitsChar 1024 r.clientRedirect) ∧
      integerFits r.durationMs = true ∧ integerFits r.rowCount = true ∧
        integerFits r.resultBytes = true := by
  simp only [Columns.Storable, Columns.clean, Columns.fits, QueryLogRow.columns, FitsChar,
    List.all_cons, List.all_nil, Bool.and_true, Bool.and_eq_true, decide_eq_true_eq,
    List.forall_mem_singleton, insertAddress_eq_ok]
  tauto

/-- A rejection row is storable when each of its values fits. -/
theorem storable_authRejectionRow_iff (inet : InetInput) (r : AuthRejectionRow) :
    r.columns.Storable inet ↔
      FitsAddress inet r.clientIp ∧ isClean r.error = true ∧
        FitsChar 64 r.tokenPk ∧ FitsChar 255 r.applicationName ∧ FitsChar 1024 r.clientRedirect ∧
        FitsChar 64 r.reason.value := by
  simp only [Columns.Storable, Columns.clean, Columns.fits, AuthRejectionRow.columns, FitsChar,
    List.all_cons, List.all_nil, Bool.and_true, Bool.and_eq_true, decide_eq_true_eq,
    List.forall_mem_singleton, insertAddress_eq_ok]
  tauto

/-! The closed vocabularies fit their columns. -/

theorem fitsChar_decision (decision : Decision) : FitsChar 16 decision.value := by
  cases decision with
  | allowed => decide
  | rejected => decide

theorem fitsChar_tool (tool : ToolName) : FitsChar 32 tool.value := by
  cases tool with
  | runQuery => decide
  | listTables => decide
  | describeTable => decide

theorem fitsChar_reason (reason : OutcomeReason) : FitsChar 64 reason.value := by
  cases reason <;> decide

theorem fitsChar_gate (gate : Gate) : FitsChar 64 gate.reason.value := by
  cases gate <;> decide

theorem isClean_gate (gate : Gate) : isClean gate.message = true := by
  cases gate <;> decide

/-! ## The rows of a principal -/

/-- What a principal brings into a row fits. -/
def Principal.Fits (inet : InetInput) (p : Principal) : Prop :=
  FitsAddress inet p.clientIp ∧ FitsChar 64 p.profile.name ∧ FitsChar 64 p.tokenId ∧
    FitsChar 1024 p.clientRedirect

/-- A row of a principal, whatever else is written into it. -/
theorem storable_row_iff {inet : InetInput} {p : Principal} {r : QueryLogRow}
    (hprofile : r.profile = p.profile.name) (htoken : r.tokenId = p.tokenId)
    (hredirect : r.clientRedirect = p.clientRedirect) (hip : r.clientIp = p.clientIp)
    (htool : FitsChar 32 r.tool) (hreason : FitsChar 64 r.rejectionReason) :
    r.columns.Storable inet ↔
      p.Fits inet ∧
      (isClean r.rawSql = true ∧ isClean r.normalizedSql = true ∧ isClean r.wrappedSql = true ∧
        isClean r.error = true) ∧
      integerFits r.durationMs = true ∧ integerFits r.rowCount = true ∧
        integerFits r.resultBytes = true := by
  have hdecision := fitsChar_decision r.decision
  rw [storable_queryLogRow_iff, hprofile, htoken, hredirect, hip]
  unfold Principal.Fits
  constructor
  · rintro ⟨haddress, htexts, ⟨htokenFits, -, -, hprofileFits, -, hredirectFits⟩, hnumbers⟩
    exact ⟨⟨haddress, hprofileFits, htokenFits, hredirectFits⟩, htexts, hnumbers⟩
  · rintro ⟨⟨haddress, hprofileFits, htokenFits, hredirectFits⟩, htexts, hnumbers⟩
    exact ⟨haddress, htexts,
      ⟨htokenFits, hdecision, htool, hprofileFits, hreason, hredirectFits⟩, hnumbers⟩

/-- The row of a metadata call. -/
theorem storable_toolRow_iff (inet : InetInput) (p : Principal) (startedAt : ℕ) (tool : ToolName)
    (detail : PyStr) :
    (QueryLogRow.columns { p.row startedAt .allowed detail with tool := tool.value }).Storable inet ↔
      p.Fits inet ∧ isClean detail = true := by
  have hblank : isClean [] = true := rfl
  have habsent : integerFits none = true := rfl
  rw [storable_row_iff rfl rfl rfl rfl (fitsChar_tool tool) (by decide : FitsChar 64 [])]
  simp only [Principal.row, hblank, habsent, and_true]

namespace Ending

/-- The texts an ending brings into its row: what sqlglot wrote, and its error. -/
def texts : Ending → List PyStr
  | misconfigured message => [message]
  | rejected exc => [exc.detail]
  | metadataOnly normalizedSql => [normalizedSql]
  | tooDeep normalizedSql => [normalizedSql]
  | hookFailed normalizedSql wrappedSql text => [normalizedSql, wrappedSql, text]
  | databaseError normalizedSql wrappedSql text _ => [normalizedSql, wrappedSql, text]
  | answered normalizedSql wrappedSql _ _ _ => [normalizedSql, wrappedSql]

/-- The numbers an ending brings into its row: how long the read took, and how much it returned. -/
def numbers (env : ExecutorEnv) : Ending → List ℕ
  | misconfigured _ | rejected _ | metadataOnly _ | tooDeep _ | hookFailed _ _ _ => []
  | databaseError _ _ _ _ => [env.durationMs]
  | answered _ _ _ capped _ => [env.durationMs, capped.kept.length, capped.total]

/-- What an ending brings into its row fits. -/
def Fits (env : ExecutorEnv) (ending : Ending) : Prop :=
  (∀ t ∈ ending.texts, isClean t = true) ∧ ∀ n ∈ ending.numbers env, n ≤ maxInteger

theorem fitsChar_rejectionReason (env : ExecutorEnv) (q : QueryCall) (ending : Ending) :
    FitsChar 64 (ending.row env q).rejectionReason := by
  cases ending with
  | misconfigured _ | hookFailed _ _ _ => exact fitsChar_reason .misconfigured
  | tooDeep _ => exact fitsChar_reason .parseError
  | rejected exc => exact fitsChar_reason exc.reason
  | databaseError _ _ _ reason => exact fitsChar_reason reason
  | metadataOnly _ | answered _ _ _ _ _ => exact (by decide : FitsChar 64 [])

theorem texts_clean_iff (env : ExecutorEnv) (q : QueryCall) (ending : Ending) :
    (isClean (ending.row env q).normalizedSql = true ∧
        isClean (ending.row env q).wrappedSql = true ∧ isClean (ending.row env q).error = true) ↔
      ∀ t ∈ ending.texts, isClean t = true := by
  have hblank : isClean [] = true := rfl
  have hdeep : isClean (lit "SQL nesting is too deep to serialize") = true := by decide
  have hhook : ∀ text, isClean (lit "SESSION_CONTEXT hook failure: " ++ text) = isClean text := by
    intro text
    rw [isClean_append, (by decide : isClean (lit "SESSION_CONTEXT hook failure: ") = true),
      Bool.true_and]
  cases ending <;>
    simp [row, texts, error, QueryCall.row, Principal.row, hblank, hdeep, hhook]

theorem numbers_fit_iff (env : ExecutorEnv) (q : QueryCall) (ending : Ending) :
    (integerFits (ending.row env q).durationMs = true ∧
        integerFits (ending.row env q).rowCount = true ∧
        integerFits (ending.row env q).resultBytes = true) ↔
      ∀ n ∈ ending.numbers env, n ≤ maxInteger := by
  have hzero : (0 : ℕ) ≤ maxInteger := Nat.zero_le _
  cases ending <;>
    simp [row, numbers, integerFits, QueryCall.row, Principal.row, hzero]

end Ending

/-- The row of an ending. -/
theorem storable_endingRow_iff (inet : InetInput) (env : ExecutorEnv) (q : QueryCall)
    (ending : Ending) :
    (ending.row env q).columns.Storable inet ↔
      q.toPrincipal.Fits inet ∧ isClean q.rawSql = true ∧ ending.Fits env := by
  have hbase : (ending.row env q).profile = q.profile.name ∧
      (ending.row env q).tokenId = q.tokenId ∧
      (ending.row env q).clientRedirect = q.clientRedirect ∧
      (ending.row env q).clientIp = q.clientIp ∧
      (ending.row env q).tool = ToolName.runQuery.value ∧
      (ending.row env q).rawSql = q.rawSql := by
    cases ending <;> exact ⟨rfl, rfl, rfl, rfl, rfl, rfl⟩
  obtain ⟨hprofile, htoken, hredirect, hip, htool, hraw⟩ := hbase
  unfold Ending.Fits
  rw [← Ending.texts_clean_iff env q ending, ← Ending.numbers_fit_iff env q ending, ← hraw,
    storable_row_iff hprofile htoken hredirect hip (htool ▸ fitsChar_tool .runQuery)
      (ending.fitsChar_rejectionReason env q), and_assoc]

/-! ## The size of what is returned -/

/-- Every part of the rows that fits into the payload has a size that a column holds. -/
def SizesFit (bytesLimit : ℤ) (rows : List (List Value)) : Prop :=
  ∀ n ≤ rows.length, Admissible capRow bytesLimit (rows.take n) →
    ((rows.take n).map (sizeOf capRow)).sum ≤ maxInteger

/-- A row is written in brackets. -/
theorem rowBytes_pos {cells : List Cell} {size : ℕ} (h : rowBytes cells = .ok size) : 0 < size := by
  unfold rowBytes at h
  by_cases hlong : cells.any Cell.tooLong = true
  · simp [hlong] at h
  · rw [if_neg hlong] at h
    rw [← Except.ok.inj h, Json.length_dumps_arr]
    omega

/-- The number of rows that are kept and their size fit their columns when the sizes do: there are no
more rows than bytes. -/
theorem capped_fits_iff {bytesLimit : ℤ} {rows : List (List Value)} {capped : Kept (List Cell)}
    (h : capRows bytesLimit rows = .ok capped) :
    (capped.kept.length ≤ maxInteger ∧ capped.total ≤ maxInteger) ↔ SizesFit bytesLimit rows := by
  unfold SizesFit
  rw [← run_total_le_iff h maxInteger]
  refine and_iff_right_of_imp fun htotal => Nat.le_trans (length_kept_le_total h ?_) htotal
  intro row cells size hmeasure
  obtain ⟨capped', -, hsize⟩ := bind_eq_ok.mp hmeasure
  obtain ⟨size', hbytes, hpair⟩ := bind_eq_ok.mp hsize
  obtain rfl : size' = size := congrArg Prod.snd (Except.ok.inj hpair)
  exact rowBytes_pos hbytes

/-! ## What comes from outside -/

section OutsideFits

variable [UnicodeDatabase]

/-- The time a read takes fits, and so do the size of what it returns and the text of its error. -/
def ReadFits (env : ExecutorEnv) (q : QueryCall) (wrappedSql : PyStr) (explicit : List ℤ)
    (sessionContext : HookResult) : Prop :=
  env.durationMs ≤ maxInteger ∧
    match outcome ((readTransaction env.connection q.profile.role sessionContext
      wrappedSql).run []) with
    | .ok (rawRows, _) => SizesFit env.settings.limits.bytesLimit
        (rawRows.take (effectiveLimit env.settings.limits explicit).toNat)
    | .error exc => ∀ text, exc.str = .ok text → isClean text = true

/-- On the configured alias, the generated SQL and the error of the hook are clean, and what the read
brings fits. -/
def WrappedFits (env : ExecutorEnv) (q : QueryCall) (parsed : ParsedQuery) (wrappedSql : PyStr)
    (explicit : List ℤ) : Prop :=
  env.connection.aliasName = env.settings.dbAlias →
    isClean parsed.normalizedSql = true ∧ isClean wrappedSql = true ∧
      match resolveSessionContext env q with
      | .ok sessionContext => ReadFits env q wrappedSql explicit sessionContext
      | .error exc => ∀ text, exc.str = .ok text → isClean text = true

/-- The generated SQL is clean, and what follows a limit that is not zero fits. -/
def ParsedFits (env : ExecutorEnv) (q : QueryCall) (parsed : ParsedQuery) : Prop :=
  let explicit := explicitLimits q.limit parsed.ast
  let effective := effectiveLimit env.settings.limits explicit
  if effective = 0 then isClean parsed.normalizedSql = true
  else
    match wrapSql env.sqlglot parsed.ast (effective + 1) with
    | .ok wrappedSql => WrappedFits env q parsed wrappedSql explicit
    | .error _ => isClean parsed.normalizedSql = true

/-- What the settings, sqlglot, the hook, the database and the clock bring into the row fits: the
name of an absent alias, the detail of a rejection, the generated SQL, the error of a failure, and
the time and size of a read. -/
def OutsideFits (env : ExecutorEnv) (q : QueryCall) : Prop :=
  if !env.aliasConfigured then isClean env.settings.dbAlias = true
  else
    ∀ allowed, allowedTables env q.profile = .ok allowed →
      match parseAndValidate env.sqlglot q.rawSql allowed env.settings.banSelectStar with
      | .ok parsed => ParsedFits env q parsed
      | .error (.queryRejected exc) => isClean exc.detail = true
      | .error _ => True

end OutsideFits

/-- The ending steps lead to, if they do, brings what fits. -/
def EndsFit (env : ExecutorEnv) (x : Session Ending) : Prop :=
  ∀ ending, outcome (x.run []) = .ok ending → ending.Fits env

theorem endsFit_pure (env : ExecutorEnv) (ending : Ending) :
    EndsFit env (pure ending) ↔ ending.Fits env := by
  unfold EndsFit
  simp

theorem endsFit_call_bind {env : ExecutorEnv} {α : Type} {r : Except PyExc α}
    {f : α → Session Ending} :
    EndsFit env (call r >>= f) ↔ ∀ a, r = .ok a → EndsFit env (f a) := by
  unfold EndsFit
  simp only [outcome_call_bind, bind_eq_ok]
  constructor
  · intro h a hr ending hending
    exact h ending ⟨a, hr, hending⟩
  · rintro h ending ⟨a, hr, hending⟩
    exact h a hr ending hending

theorem endsFit_attempt_bind {env : ExecutorEnv} {α : Type} {x : Session α}
    {f : Except PyExc α → Except PyExc Ending} :
    EndsFit env (attempt x >>= fun r => call (f r)) ↔
      ∀ ending, f (outcome (x.run [])) = .ok ending → ending.Fits env := by
  unfold EndsFit
  rw [outcome_attempt_bind]

section Steps

variable [UnicodeDatabase]

/-- The generated SQL and what a read brings. -/
theorem readEnding_fits_iff {env : ExecutorEnv} {q : QueryCall} {parsed : ParsedQuery}
    {wrappedSql : PyStr} {explicit : List ℤ} {sessionContext : HookResult}
    (h : ReadHandled env q wrappedSql explicit sessionContext) :
    (∀ ending, readEnding env parsed.normalizedSql wrappedSql explicit (outcome
        ((readTransaction env.connection q.profile.role sessionContext wrappedSql).run [])) =
          .ok ending → ending.Fits env) ↔
      isClean parsed.normalizedSql = true ∧ isClean wrappedSql = true ∧
        ReadFits env q wrappedSql explicit sessionContext := by
  obtain ⟨hdatabase, hcapped⟩ := h
  unfold ReadFits
  cases hread : outcome ((readTransaction env.connection q.profile.role sessionContext
      wrappedSql).run []) with
  | ok read =>
    obtain ⟨rawRows, columns⟩ := read
    obtain ⟨capped, hcapped⟩ := hcapped rawRows columns hread
    simp [readEnding, hcapped, Ending.Fits, Ending.texts, Ending.numbers, bind, Except.bind, pure,
      Except.pure, and_assoc, ← capped_fits_iff hcapped]
  | error exc =>
    have hcaught : exc.isDatabaseError = true := hdatabase exc hread
    cases htext : exc.str with
    | ok text =>
      simp [readEnding, hcaught, htext, Ending.Fits, Ending.texts, Ending.numbers, bind, Except.bind,
        pure, Except.pure]
      tauto
    | error e =>
      cases exc <;> simp [PyExc.isDatabaseError, PyExc.str] at hcaught htext

theorem endsFit_wrappedSteps_iff {env : ExecutorEnv} {q : QueryCall} {parsed : ParsedQuery}
    {wrappedSql : PyStr} {explicit : List ℤ} (h : WrappedHandled env q wrappedSql explicit) :
    EndsFit env (wrappedSteps env q parsed wrappedSql explicit) ↔
      WrappedFits env q parsed wrappedSql explicit := by
  unfold wrappedSteps WrappedFits
  by_cases halias : env.connection.aliasName = env.settings.dbAlias
  · rw [if_neg (not_not.mpr halias)]
    obtain ⟨hprintable, hhandled⟩ := h halias
    simp only [halias, true_implies]
    cases hcontext : resolveSessionContext env q with
    | ok sessionContext =>
      rw [endsFit_attempt_bind, readEnding_fits_iff (hhandled sessionContext hcontext)]
    | error exc =>
      have hexc : exc.isException = true ∧ exc.str.toBool = true := by
        simpa [PyExc.isPrintable] using hprintable exc hcontext
      obtain ⟨hexception, hstr⟩ := hexc
      simp only [hexception, if_true, endsFit_call_bind, endsFit_pure]
      cases htext : exc.str with
      | ok text => simp [Ending.Fits, Ending.texts, Ending.numbers]
      | error e => simp [htext, Except.toBool] at hstr
  · rw [if_pos halias, endsFit_pure]
    have hmessage : isClean (lit "connections[" ++ PyStr.repr env.settings.dbAlias ++
        lit "] resolved to a different alias") = true := by
      rw [isClean_append, isClean_append, isClean_repr]
      decide
    simp only [Ending.Fits, Ending.texts, Ending.numbers, List.mem_singleton, forall_eq,
      List.not_mem_nil, false_implies, implies_true, and_true, hmessage, halias]

theorem endsFit_parsedSteps_iff {env : ExecutorEnv} {q : QueryCall} {parsed : ParsedQuery}
    (h : ParsedHandled env q parsed) :
    EndsFit env (parsedSteps env q parsed) ↔ ParsedFits env q parsed := by
  unfold parsedSteps ParsedFits
  by_cases hzero : effectiveLimit env.settings.limits (explicitLimits q.limit parsed.ast) = 0
  · simp [hzero, endsFit_pure, Ending.Fits, Ending.numbers, Ending.texts]
  · obtain ⟨hdeep, hwrapped⟩ := h hzero
    simp only [hzero, if_false]
    cases hwrap : wrapSql env.sqlglot parsed.ast
        (effectiveLimit env.settings.limits (explicitLimits q.limit parsed.ast) + 1) with
    | ok wrappedSql => exact endsFit_wrappedSteps_iff (hwrapped wrappedSql hwrap)
    | error e =>
      have hrecursion := hdeep e hwrap
      cases e <;> simp_all [PyExc.isRecursionError, endsFit_pure, Ending.Fits, Ending.numbers,
        Ending.texts]

/-- The ending of a query brings what fits when what comes from outside does. -/
theorem endsFit_steps_iff {env : ExecutorEnv} {q : QueryCall} (h : StepsHandled env q) :
    EndsFit env (steps env q) ↔ OutsideFits env q := by
  unfold steps OutsideFits
  cases halias : env.aliasConfigured with
  | false =>
    have hmessage : isClean (lit "MCP_READONLY_DATABASE_URL is not configured; " ++
        env.settings.dbAlias ++ lit " alias absent") = isClean env.settings.dbAlias := by
      have hstart : isClean (lit "MCP_READONLY_DATABASE_URL is not configured; ") = true := by
        decide
      have hend : isClean (lit " alias absent") = true := by decide
      rw [isClean_append, isClean_append, hstart, hend, Bool.true_and, Bool.and_true]
    simp only [Bool.not_false, if_true, endsFit_pure, Ending.Fits, Ending.texts, Ending.numbers,
      List.mem_singleton, forall_eq, List.not_mem_nil, false_implies, implies_true, and_true,
      hmessage]
  | true =>
    obtain ⟨-, hallowed⟩ := h halias
    simp only [Bool.not_true, Bool.false_eq_true, if_false, endsFit_call_bind]
    refine forall_congr' fun allowed => forall_congr' fun htables => ?_
    obtain ⟨hrejects, hparsed⟩ := hallowed allowed htables
    rw [← confined_parseAndValidate_iff] at hrejects
    cases hparse : parseAndValidate env.sqlglot q.rawSql allowed env.settings.banSelectStar with
    | ok parsed => exact endsFit_parsedSteps_iff (hparsed parsed hparse)
    | error e =>
      have hrejected := hrejects e hparse
      cases e <;> simp_all [PyExc.isQueryRejected, endsFit_pure, Ending.Fits, Ending.numbers,
        Ending.texts]

end Steps

end McpSql
