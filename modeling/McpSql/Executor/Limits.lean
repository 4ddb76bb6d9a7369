import Mathlib.Data.ENat.Lattice
import McpSql.Executor.Ending
import McpSql.Foundations.Raising

/-!
# The limit pipeline

How many rows of a query come back, and what `truncated` says about them.  The caller's limits (the
argument and the `LIMIT` of the SQL), the server's two limits, the probe row and the byte cap meet in
`run_query`; the caller sees a prefix of the rows the query produces, marked as truncated exactly
when the server and not the caller ended it.
-/

namespace McpSql

open Python PyStr Effect GreedyPrefix Located Raising

/-! ## The caller's limits -/

/-- A limit the caller gave; a negative one counts as zero. -/
def givenCap : Option ℤ → ℕ∞
  | none => ⊤
  | some n => n.toNat

/-- The minimum of the caller's limits. -/
noncomputable def callerCap (limit sqlLimit : Option ℤ) : ℕ∞ := min (givenCap limit) (givenCap sqlLimit)

/-- The cap on the number of rows. -/
noncomputable def rowCap (limits : Limits) (c : ℕ∞) : ℕ∞ :=
  if c = ⊤ then limits.defaultLimit.toNat else min c limits.hardLimit.toNat

/-- The limits of a server: the default is positive and within the hard limit. -/
def Limits.Ordered (limits : Limits) : Prop :=
  0 < limits.defaultLimit ∧ limits.defaultLimit ≤ limits.hardLimit

/-- The row cap never exceeds the hard limit. -/
theorem rowCap_le {limits : Limits} (hlimits : limits.Ordered) (c : ℕ∞) :
    rowCap limits c ≤ limits.hardLimit.toNat := by
  obtain ⟨hdefault, hhard⟩ := hlimits
  unfold rowCap
  split_ifs
  · exact Nat.cast_le.mpr (by omega)
  · exact min_le_right _ _

/-- A cap below another is a number, so it is the cap on the rows up to the hard limit. -/
theorem rowCap_of_lt {limits : Limits} {c c' : ℕ∞} (h : c' < c) :
    rowCap limits c' = min c' limits.hardLimit.toNat := by
  have hfinite : c' ≠ ⊤ := (lt_of_lt_of_le h le_top).ne
  unfold rowCap
  rw [if_neg hfinite]

/-- The hard limit lets a row through. -/
theorem hardLimit_pos {limits : Limits} (h : limits.Ordered) :
    0 < (limits.hardLimit.toNat : ℕ∞) := by
  obtain ⟨hdefault, hle⟩ := h
  exact pos_iff_ne_zero.mpr (Nat.cast_ne_zero.mpr (by omega))

/-- So does the default limit, and so does a cap that is not the smallest. -/
theorem rowCap_pos {limits : Limits} {c c' : ℕ∞} (hlimits : limits.Ordered) (h : c' < c) :
    0 < rowCap limits c := by
  have hhard := hardLimit_pos hlimits
  obtain ⟨hdefault, -⟩ := hlimits
  unfold rowCap
  split_ifs
  · exact pos_iff_ne_zero.mpr (Nat.cast_ne_zero.mpr (by omega))
  · exact lt_min (lt_of_le_of_lt zero_le h) hhard

/-- Without a limit of the caller the cap is unbounded, otherwise it is the least one given. -/
theorem callerCap_cases [UnicodeDatabase] (limits : Limits) (limit : Option ℤ) (ast : Expression) :
    (explicitLimits limit ast = [] ∧ callerCap limit (extractLimit ast) = ⊤) ∨
      (explicitLimits limit ast ≠ [] ∧ callerCap limit (extractLimit ast) =
        (minExplicitLimit limits (explicitLimits limit ast)).toNat) := by
  unfold explicitLimits callerCap
  cases limit with
  | none =>
    cases extractLimit ast with
    | none => exact Or.inl ⟨rfl, rfl⟩
    | some m => exact Or.inr ⟨by simp, by simp [givenCap, minExplicitLimit]⟩
  | some n =>
    cases extractLimit ast with
    | none => exact Or.inr ⟨by simp, by simp [givenCap, minExplicitLimit]⟩
    | some m =>
      refine Or.inr ⟨by simp, ?_⟩
      have hmin : minExplicitLimit limits [n, m] = min n m := rfl
      have hnat : (min n m).toNat = min n.toNat m.toNat := by omega
      show min (givenCap (some n)) (givenCap (some m)) = _
      rw [show ([some n, some m] : List (Option ℤ)).filterMap id = [n, m] from rfl, hmin, hnat]
      exact Nat.mono_cast.map_min.symm

/-- The effective limit in terms of the caller's cap: it is the row cap, and the caller is the one
who set it exactly when `user_constrained` holds. -/
theorem effectiveLimit_spec [UnicodeDatabase] {limits : Limits} (hlimits : limits.Ordered)
    (limit : Option ℤ) (ast : Expression) :
    ∃ e : ℕ, effectiveLimit limits (explicitLimits limit ast) = e ∧
      rowCap limits (callerCap limit (extractLimit ast)) = e ∧ (e : ℤ) ≤ limits.hardLimit ∧
      (userConstrained limits (explicitLimits limit ast) = true →
        callerCap limit (extractLimit ast) = e) ∧
      (userConstrained limits (explicitLimits limit ast) = false →
        0 < e ∧ e < callerCap limit (extractLimit ast)) := by
  obtain ⟨hdefault, hhard⟩ := hlimits
  unfold rowCap effectiveLimit userConstrained
  rcases callerCap_cases limits limit ast with ⟨hnil, hcap⟩ | ⟨hne, hcap⟩
  · rw [hnil, hcap]
    have hmin : minExplicitLimit limits [] = limits.defaultLimit := rfl
    rw [hmin]
    refine ⟨limits.defaultLimit.toNat, by omega, by simp, by omega, by simp, ?_⟩
    intro _
    exact ⟨by omega, ENat.natCast_lt_top _⟩
  · rw [hcap]
    generalize minExplicitLimit limits (explicitLimits limit ast) = m
    refine ⟨(max 0 (min m limits.hardLimit)).toNat, by omega, ?_, by omega, ?_, ?_⟩
    · rw [if_neg (ENat.natCast_ne_top _)]
      have hnat : (max 0 (min m limits.hardLimit)).toNat =
          min m.toNat limits.hardLimit.toNat := by omega
      rw [hnat]
      exact Nat.mono_cast.map_min.symm
    · intro hconstrained
      have hm : m ≤ limits.hardLimit := by simpa [hne] using hconstrained
      exact congrArg Nat.cast (by omega)
    · intro hfree
      have hm : limits.hardLimit < m := by simpa [hne] using hfree
      exact ⟨by omega, Nat.cast_lt.mpr (by omega)⟩

/-- Whether the rows behind a prefix were cut by the server. -/
theorem truncated_iff {D pre rest : List (List Value)} {e : ℕ} {c : ℕ∞} {constrained : Bool}
    (hrows : (D.take (e + 1)).take e = pre ++ rest) (hconstrained : constrained = true → c = e)
    (hfree : constrained = false → e < c) :
    ((¬constrained ∧ e < (D.take (e + 1)).length) ∨ rest ≠ []) ↔
      (pre.length : ℕ∞) < min c D.length := by
  have hlength : min e D.length = pre.length + rest.length := by
    have htake := congrArg List.length hrows
    simp only [List.length_take, List.length_append] at htake
    omega
  have hrest : rest ≠ [] ↔ 0 < rest.length := List.length_pos_iff.symm
  rw [hrest, lt_min_iff, Nat.cast_lt, List.length_take]
  cases constrained with
  | true =>
    rw [hconstrained rfl, Nat.cast_lt]
    simp
    omega
  | false =>
    have hpre : (pre.length : ℕ∞) < c := lt_of_le_of_lt (Nat.cast_le.mpr (by omega)) (hfree rfl)
    simp [hpre]
    omega

/-! ## A query that is served -/

/-- An accepted query on a server whose hook, serializer and database do not fail.  `D` are the rows
the query without its root `LIMIT` produces: sqlglot replaces the root `LIMIT`, and the database
answers the SQL with root `LIMIT n` with the first `n` rows of `D`. -/
structure Serves [UnicodeDatabase] (env : ExecutorEnv) (q : QueryCall) (parsed : ParsedQuery)
    (D : List (List Value)) : Prop where
  aliasConfigured : env.aliasConfigured = true
  sameAlias : env.connection.aliasName = env.settings.dbAlias
  accepted : ∃ allowed, allowedTables env q.profile = .ok allowed ∧
    parseAndValidate env.sqlglot q.rawSql allowed env.settings.banSelectStar = .ok parsed
  replacesLimit : ∀ n, 0 < n → n ≤ env.settings.limits.hardLimit + 1 →
    ∃ limited sql, env.sqlglot.limit parsed.ast n = .ok limited ∧
      extractLimit limited = some n ∧ env.sqlglot.sql limited false = .ok sql ∧
      env.connection.fetchall sql = .ok (D.take n.toNat)
  begins : env.connection.begin = .ok ()
  executes : ∀ statement, env.connection.execute statement = .ok ()
  commits : env.connection.commit = .ok ()
  hook : ∃ sessionContext, resolveSessionContext env q = .ok sessionContext ∧
    sessionContext.Convertible
  measured : ∀ row ∈ D, ∃ capped, capRow row = .ok capped
  audits : ∀ row, Confined PyExc.isDatabaseError (env.createRow row)

section Serves

variable [UnicodeDatabase] {env : ExecutorEnv} {q : QueryCall} {parsed : ParsedQuery}
  {D : List (List Value)}

/-- A hook's result that has passed the check. -/
theorem valid_of_resolveSessionContext {context : HookResult}
    (h : resolveSessionContext env q = .ok context) :
    context = .none ∨ validateSessionContext context = .ok () := by
  unfold resolveSessionContext at h
  obtain ⟨result, -, h⟩ := bind_eq_ok.mp h
  cases result with
  | none =>
    obtain rfl : HookResult.none = context := by simpa [pure, Except.pure] using h
    exact Or.inl rfl
  | mapping items =>
    obtain ⟨⟨⟩, hvalid, h⟩ := bind_eq_ok.mp h
    obtain rfl : HookResult.mapping items = context := by simpa [pure, Except.pure] using h
    exact Or.inr hvalid
  | other typeName truthy =>
    obtain ⟨⟨⟩, hvalid, h⟩ := bind_eq_ok.mp h
    simp [validateSessionContext] at hvalid

/-- The read transaction returns what the database answers, after sending the query last. -/
theorem run_readTransaction (h : Serves env q parsed D) {context : HookResult}
    (hcontext : resolveSessionContext env q = .ok context) (hvalues : context.Convertible)
    {sql : PyStr} {rows : List (List Value)} (hrows : env.connection.fetchall sql = .ok rows) :
    ∃ before columns, (readTransaction env.connection q.profile.role context sql).run [] =
      .ok (rows, columns) (before ++ [⟨sql, []⟩]) := by
  have hsession := completes_enterReadonlySession h.executes q.profile.role
    (valid_of_resolveSessionContext hcontext) hvalues
  obtain ⟨⟨⟩, before, hbefore⟩ := hsession []
  rw [List.nil_append] at hbefore
  refine ⟨before, (env.connection.description sql).getD [], ?_⟩
  unfold readTransaction execute
  simp only [EStateM.run_bind, h.begins, run_call_ok, hbefore, EStateM.run_modify, h.executes,
    hrows, h.commits, EStateM.run_pure]

/-- The steps of a served query. -/
theorem run_steps_of_serves (h : Serves env q parsed D) {e : ℕ}
    (he : effectiveLimit env.settings.limits (explicitLimits q.limit parsed.ast) = e)
    (hhard : (e : ℤ) ≤ env.settings.limits.hardLimit) :
    (e = 0 ∧ (steps env q).run [] = .ok (.metadataOnly parsed.normalizedSql) []) ∨
      (0 < e ∧ ∃ limited sql before columns capped,
        env.sqlglot.limit parsed.ast (e + 1) = .ok limited ∧
        extractLimit limited = some ((e : ℤ) + 1) ∧ env.sqlglot.sql limited false = .ok sql ∧
        capRows env.settings.limits.bytesLimit ((D.take (e + 1)).take e) = .ok capped ∧
        (steps env q).run [] = .ok (.answered parsed.normalizedSql sql columns capped
          ((!userConstrained env.settings.limits (explicitLimits q.limit parsed.ast) &&
            decide ((e : ℤ) < (D.take (e + 1)).length)) || capped.cut))
          (before ++ [⟨sql, []⟩])) := by
  obtain ⟨allowed, hallowed, hparsed⟩ := h.accepted
  have hsteps : (steps env q).run [] = (parsedSteps env q parsed).run [] := by
    unfold steps
    rw [h.aliasConfigured, hallowed]
    simp only [Bool.not_true, Bool.false_eq_true, if_false, EStateM.run_bind, run_call_ok, hparsed]
  rw [hsteps]
  unfold parsedSteps
  simp only [he]
  rcases Nat.eq_zero_or_pos e with hzero | hpos
  · refine Or.inl ⟨hzero, ?_⟩
    rw [if_pos (by omega)]
    rfl
  · refine Or.inr ⟨hpos, ?_⟩
    obtain ⟨limited, sql, hlimited, hroot, hsql, hfetch⟩ :=
      h.replacesLimit ((e : ℤ) + 1) (by omega) (by omega)
    have hwrap : wrapSql env.sqlglot parsed.ast ((e : ℤ) + 1) = .ok sql :=
      bind_eq_ok.mpr ⟨limited, hlimited, hsql⟩
    obtain ⟨context, hcontext, hvalues⟩ := h.hook
    obtain ⟨before, columns, hread⟩ := run_readTransaction h hcontext hvalues hfetch
    have hmeasured : ∀ row ∈ (D.take (e + 1)).take e, ∃ capped, capRow row = .ok capped :=
      fun row hrow => h.measured row (List.mem_of_mem_take (List.mem_of_mem_take hrow))
    obtain ⟨capped, hcapped⟩ : ∃ capped,
        capRows env.settings.limits.bytesLimit ((D.take (e + 1)).take e) = .ok capped :=
      loop_returns hmeasured
    refine ⟨limited, sql, before, columns, capped, hlimited, hroot, hsql, hcapped, ?_⟩
    rw [if_neg (by omega), hwrap]
    show (wrappedSteps env q parsed sql _).run [] = _
    unfold wrappedSteps
    rw [if_neg (not_not.mpr h.sameAlias), hcontext]
    show (call (readEnding env parsed.normalizedSql sql _ (outcome _))).run (finalState _) = _
    rw [hread]
    have hnat : ((e : ℤ) + 1).toNat = e + 1 := by omega
    simp only [hnat, outcome_ok, finalState_ok, readEnding, he, Int.toNat_natCast, hcapped]
    rfl

end Serves

/-! ## The root `LIMIT` -/

/-- The `LIMIT` node of the root. -/
def rootLimitNode (ast : Expression) : Option ExprLoc :=
  let root : ExprLoc := Loc.root ast
  let body := if root.cls.isWith then root.arg .this else some root
  body.bind (ExprLoc.arg · .limit)

/-- The root `LIMIT` is absent, or a literal that denotes an integer. -/
inductive RootLimit [UnicodeDatabase] (ast : Expression) : Option ℤ → Prop
  | absent : rootLimitNode ast = none → RootLimit ast none
  | literal {node expr : ExprLoc} {this : PyStr} {isString : Bool} {n : ℤ} :
      rootLimitNode ast = some node → node.arg .expression = some expr →
      expr.cls = .literal this isString → integerText this = some n → RootLimit ast (some n)

theorem extractLimit_eq [UnicodeDatabase] (ast : Expression) :
    extractLimit ast =
      match (rootLimitNode ast).bind (ExprLoc.arg · .expression) with
      | some expr =>
        match expr.cls with
        | .literal this _ => pyInt this
        | _ => none
      | none => none := rfl

/-- `extract_limit` reads the literal, or nothing when it has too many digits. -/
theorem extractLimit_of_rootLimit [UnicodeDatabase] {ast : Expression} {sqlLimit : Option ℤ}
    (h : RootLimit ast sqlLimit) : extractLimit ast = sqlLimit ∨ extractLimit ast = none := by
  rw [extractLimit_eq]
  cases h with
  | absent hroot =>
    refine Or.inl ?_
    rw [hroot]
    rfl
  | @literal node expr this isString n hroot hexpr hcls hvalue =>
    rw [hroot, Option.bind_some, hexpr]
    simp only [hcls]
    cases hread : pyInt this with
    | none => exact Or.inr rfl
    | some m =>
      rw [← hvalue, ← integerText_of_pyInt hread]
      exact Or.inl rfl

/-! ## What is shown -/

/-- Which prefixes of `D` are among the rows that `_cap_rows` keeps of the first `e`. -/
theorem length_kept_iff {D : List (List Value)} {e n : ℕ} {capped : Kept (List Cell)} {bytesLimit : ℤ}
    (h : capRows bytesLimit (D.take e) = .ok capped) (hn : n ≤ D.length) :
    n ≤ capped.kept.length ↔ n ≤ e ∧ Admissible capRow bytesLimit (D.take n) := by
  obtain ⟨pre, rest, hsplit, himage, -⟩ := prefix_of_capRows h
  have hle : capped.kept.length ≤ e := by
    have htake := congrArg List.length hsplit
    rw [List.length_take, List.length_append, himage.length_eq] at htake
    omega
  by_cases hne : n ≤ e
  · have hkept := run_keeps_iff h (n := n) (by rw [List.length_take]; omega)
    rw [List.take_take, Nat.min_eq_left hne] at hkept
    simp only [hkept, hne, true_and]
  · simp only [hne, false_and, iff_false]
    omega

/-- What is shown of `D` under the caller's cap `c`: as much as the row cap and the payload cap
let through. -/
def ShowsAdmissible (limits : Limits) (D : List (List Value)) (c : ℕ∞) (shown : ℕ) : Prop :=
  shown ≤ D.length ∧ ∀ n ≤ D.length,
    n ≤ shown ↔ (n : ℕ∞) ≤ rowCap limits c ∧ Admissible capRow limits.bytesLimit (D.take n)

/-- A limit of `n` rows makes no difference to an answer that other limits cap: the query produces
no more rows, fewer are asked for without it, or the first `n` do not fit into the payload. -/
def MakesNoDifference (limits : Limits) (D : List (List Value)) (argument : Option ℤ) (n : ℕ) :
    Prop :=
  0 < n ∧ (D.length ≤ n ∨ rowCap limits (givenCap argument) < n ∨
    ¬Admissible capRow limits.bytesLimit (D.take n))

/-- When no more than `n` rows are shown, and all of them if it is `n`: the limits decide. -/
theorem shown_lower_iff {limits : Limits} {c : ℕ∞} {shown n : ℕ}
    (h : ShowsAdmissible limits D c shown) :
    ((shown : ℕ∞) < n ∨ ((shown : ℕ∞) = n ∧ (D.length : ℕ∞) ≤ n)) ↔
      D.length ≤ n ∨ rowCap limits c < n ∨ ¬Admissible capRow limits.bytesLimit (D.take n) := by
  obtain ⟨hall, hshown⟩ := h
  simp only [Nat.cast_lt, Nat.cast_inj, Nat.cast_le]
  by_cases hfew : D.length ≤ n
  · simp only [hfew, and_true, true_or, iff_true]
    omega
  · have hkept := hshown n (by omega)
    have hcut : ¬n ≤ shown ↔
        rowCap limits c < n ∨ ¬Admissible capRow limits.bytesLimit (D.take n) := by
      rw [hkept, not_and_or, not_le]
    rw [← hcut]
    simp only [hfew, and_false, or_false, false_or]
    omega

/-! ## The pipeline is exact -/

/-- What the caller of a query over the rows `D` sees, and what was sent to the database, when the
caller's cap is `c`. -/
structure LimitsExact [UnicodeDatabase] (env : ExecutorEnv) (parsed : ParsedQuery)
    (D : List (List Value)) (c : ℕ∞) (result : QueryResult) (sent : List PyStr) : Prop where
  executes : 0 < rowCap env.settings.limits c →
    ∃ n limited sql before, n ≤ env.settings.limits.hardLimit + 1 ∧
      env.sqlglot.limit parsed.ast n = .ok limited ∧ extractLimit limited = some n ∧
      env.sqlglot.sql limited false = .ok sql ∧ sent = before ++ [sql]
  idle : rowCap env.settings.limits c = 0 → sent = []
  rows : ∃ pre rest, D = pre ++ rest ∧ CappedImage pre result.rows ∧
    (pre.length : ℕ∞) ≤ rowCap env.settings.limits c
  truncated : result.truncated = true ↔ (result.rows.length : ℕ∞) < min c D.length

section Exact

variable [UnicodeDatabase] {env : ExecutorEnv} {q : QueryCall} {parsed : ParsedQuery}
  {D : List (List Value)}

/-- A zero cap: nothing is sent and nothing comes back. -/
theorem limitsExact_metadataOnly {c : ℕ∞} (hcap : rowCap env.settings.limits c = 0)
    (hzero : c = 0) : LimitsExact env parsed D c { rowCount := 0, durationMs := 0 } [] where
  executes hpos := absurd hcap hpos.ne'
  idle _ := rfl
  rows := ⟨[], D, rfl, .nil, zero_le⟩
  truncated := by simp [hzero]

/-- The rows of a positive cap. -/
theorem limitsExact_answered {e : ℕ} {c : ℕ∞} {constrained : Bool} (hpos : 0 < e)
    (hcap : rowCap env.settings.limits c = e) (hhard : (e : ℤ) ≤ env.settings.limits.hardLimit)
    (hconstrained : constrained = true → c = e) (hfree : constrained = false → e < c)
    {limited : Expression} {sql : PyStr} {before : List PyStr} {capped : Kept (List Cell)}
    {result : QueryResult} (hlimited : env.sqlglot.limit parsed.ast (e + 1) = .ok limited)
    (hroot : extractLimit limited = some ((e : ℤ) + 1))
    (hsql : env.sqlglot.sql limited false = .ok sql)
    (hcapped : capRows env.settings.limits.bytesLimit ((D.take (e + 1)).take e) = .ok capped)
    (hrows : result.rows = capped.kept) (htruncated : result.truncated =
      ((!constrained && decide ((e : ℤ) < (D.take (e + 1)).length)) || capped.cut)) :
    LimitsExact env parsed D c result (before ++ [sql]) := by
  obtain ⟨pre, rest, hsplit, himage, hcut⟩ := prefix_of_capRows hcapped
  have hlength : pre.length = result.rows.length := by
    rw [hrows]
    exact himage.length_eq
  have hle : pre.length ≤ e := by
    have htake := congrArg List.length hsplit
    simp only [List.length_take, List.length_append] at htake
    omega
  refine ⟨fun _ => ?_, fun hzero => ?_, ?_, ?_⟩
  · exact ⟨(e : ℤ) + 1, limited, sql, before, by omega, hlimited, hroot, hsql, rfl⟩
  · rw [hcap] at hzero
    exact absurd (Nat.cast_eq_zero.mp hzero) hpos.ne'
  · refine ⟨pre, D.drop pre.length, ?_, by rw [hrows]; exact himage, ?_⟩
    · have hprefix : pre <+: D :=
        (List.prefix_append pre rest).trans
          (hsplit ▸ (List.take_prefix _ _).trans (List.take_prefix _ _))
      obtain ⟨tail, rfl⟩ := hprefix
      simp
    · rw [hcap]
      exact Nat.cast_le.mpr hle
  · rw [htruncated, ← hlength, ← truncated_iff hsplit hconstrained hfree]
    cases constrained with
    | true => simp [hcut]
    | false => simp [hcut]

/-- A served query is answered, with the caller's limits as `extract_limit` reads them. -/
theorem limitsExact_of_serves (h : Serves env q parsed D)
    (hlimits : env.settings.limits.Ordered) (w : World) :
    ∃ result sent, outcome ((runQuery env q).run w) = .ok result ∧
      (finalState ((runQuery env q).run w)).executed = w.executed ++ sent ∧
      LimitsExact env parsed D (callerCap q.limit (extractLimit parsed.ast)) result sent ∧
      ShowsAdmissible env.settings.limits D (callerCap q.limit (extractLimit parsed.ast))
        result.rows.length := by
  obtain ⟨e, he, hcap, hhard, hconstrained, hfree⟩ :=
    effectiveLimit_spec hlimits q.limit parsed.ast
  unfold ShowsAdmissible
  rw [hcap]
  rcases run_steps_of_serves h he hhard with
    ⟨rfl, hsteps⟩ | ⟨hpos, limited, sql, before, columns, capped, hlimited, hroot, hsql, hcapped,
      hsteps⟩
  · obtain ⟨hanswer, hsent⟩ := runQuery_answers hsteps (h.audits _) w
    have hzero : callerCap q.limit (extractLimit parsed.ast) = 0 := by
      cases hset : userConstrained env.settings.limits (explicitLimits q.limit parsed.ast) with
      | true => exact hconstrained hset
      | false => exact absurd (hfree hset).1 (lt_irrefl 0)
    refine ⟨_, [], hanswer, hsent, limitsExact_metadataOnly hcap hzero, Nat.zero_le _, ?_⟩
    intro n _
    rw [Nat.cast_le]
    refine ⟨fun hn => ⟨hn, ?_⟩, And.left⟩
    obtain rfl := Nat.le_zero.mp hn
    exact Or.inl (Nat.zero_le 1)
  · obtain ⟨hanswer, hsent⟩ := runQuery_answers hsteps (h.audits _) w
    have htake : (D.take (e + 1)).take e = D.take e := by
      rw [List.take_take, Nat.min_eq_left (Nat.le_succ e)]
    refine ⟨_, before.map Statement.sql ++ [sql], hanswer, ?_, ?_, ?_, ?_⟩
    · rw [hsent, List.map_append]
      rfl
    · exact limitsExact_answered hpos hcap hhard hconstrained (fun hset => (hfree hset).2) hlimited
        hroot hsql hcapped rfl rfl
    · obtain ⟨pre, rest, hsplit, himage, -⟩ := prefix_of_capRows hcapped
      have hlength := congrArg List.length hsplit
      rw [htake, List.length_take, List.length_append, himage.length_eq] at hlength
      show capped.kept.length ≤ D.length
      omega
    · intro n hn
      rw [htake] at hcapped
      rw [Nat.cast_le]
      exact length_kept_iff hcapped hn

/-- What is exact for a cap and for a smaller one shows fewer rows than the smaller one allows, or as
many when there are no others. -/
theorem shown_of_limitsExact_lower {c c' : ℕ∞} {result : QueryResult} {sent : List PyStr}
    (hlimits : env.settings.limits.Ordered) (h : LimitsExact env parsed D c result sent)
    (hlower : c' < c) (h' : LimitsExact env parsed D c' result sent) :
    0 < c' ∧ ((result.rows.length : ℕ∞) < c' ∨
      (result.rows.length = c' ∧ (D.length : ℕ∞) ≤ c')) := by
  have hcap : rowCap env.settings.limits c' = min c' env.settings.limits.hardLimit.toNat :=
    rowCap_of_lt hlower
  have hc' : 0 < c' := by
    by_contra hzero
    have hidle := h'.idle (by rw [hcap, nonpos_iff_eq_zero.mp (not_lt.mp hzero), zero_min])
    obtain ⟨n, limited, sql, before, -, -, -, -, hsent⟩ := h.executes (rowCap_pos hlimits hlower)
    rw [hidle] at hsent
    exact absurd hsent.symm (List.append_ne_nil_of_right_ne_nil _ (List.cons_ne_nil _ _))
  refine ⟨hc', ?_⟩
  obtain ⟨pre', rest', -, himage', hle'⟩ := h'.rows
  have hshown : (result.rows.length : ℕ∞) ≤ c' := by
    rw [← himage'.length_eq]
    exact hle'.trans (hcap ▸ min_le_left _ _)
  rcases hshown.lt_or_eq with hlt | heq
  · exact Or.inl hlt
  · refine Or.inr ⟨heq, ?_⟩
    have hnot : ¬(result.rows.length : ℕ∞) < min c D.length := by
      rw [← h.truncated, h'.truncated, heq]
      exact fun hlt => absurd (lt_min_iff.mp hlt).1 (lt_irrefl _)
    rw [heq] at hnot
    exact not_lt.mp fun hlt => hnot (lt_min hlower hlt)

/-- What shows that few rows is exact for the smaller cap too. -/
theorem limitsExact_lower_of_shown {c c' : ℕ∞} {result : QueryResult} {sent : List PyStr}
    (hlimits : env.settings.limits.Ordered) (h : LimitsExact env parsed D c result sent)
    (hlower : c' < c) (hc' : 0 < c')
    (hshown : (result.rows.length : ℕ∞) < c' ∨
      (result.rows.length = c' ∧ (D.length : ℕ∞) ≤ c')) :
    LimitsExact env parsed D c' result sent := by
  have hcap : rowCap env.settings.limits c' = min c' env.settings.limits.hardLimit.toNat :=
    rowCap_of_lt hlower
  have hhard := hardLimit_pos hlimits
  obtain ⟨pre, rest, hsplit, himage, hle⟩ := h.rows
  have hshown_le : (result.rows.length : ℕ∞) ≤ c' := by
    rcases hshown with hlt | ⟨heq, -⟩
    · exact hlt.le
    · exact heq.le
  refine ⟨fun _ => h.executes (rowCap_pos hlimits hlower), fun hzero => ?_,
    ⟨pre, rest, hsplit, himage, ?_⟩, ?_⟩
  · rw [hcap] at hzero
    exact absurd hzero (lt_min hc' hhard).ne'
  · rw [hcap]
    refine le_min ?_ (hle.trans (rowCap_le hlimits c))
    rw [himage.length_eq]
    exact hshown_le
  · rw [h.truncated, lt_min_iff, lt_min_iff]
    rcases hshown with hlt | ⟨heq, hall⟩
    · exact ⟨fun hboth => ⟨hlt, hboth.2⟩, fun hboth => ⟨hlt.trans hlower, hboth.2⟩⟩
    · rw [heq]
      constructor
      · rintro ⟨-, hmore⟩
        exact absurd hmore (not_lt.mpr hall)
      · rintro ⟨hirrefl, -⟩
        exact absurd hirrefl (lt_irrefl _)

/-- What is exact for one cap is exact for a smaller one when fewer rows are shown than the smaller
one allows, or as many when there are no others. -/
theorem limitsExact_lower_iff {c c' : ℕ∞} {result : QueryResult} {sent : List PyStr}
    (hlimits : env.settings.limits.Ordered) (h : LimitsExact env parsed D c result sent)
    (hlower : c' < c) :
    LimitsExact env parsed D c' result sent ↔
      0 < c' ∧ ((result.rows.length : ℕ∞) < c' ∨
        (result.rows.length = c' ∧ (D.length : ℕ∞) ≤ c')) :=
  ⟨shown_of_limitsExact_lower hlimits h hlower,
    fun ⟨hc', hshown⟩ => limitsExact_lower_of_shown hlimits h hlower hc' hshown⟩

/-- What the limit pipeline promises for a query over the rows `D` with the SQL limit `sqlLimit`. -/
def PipelineExact (env : ExecutorEnv) (q : QueryCall) (parsed : ParsedQuery)
    (D : List (List Value)) (sqlLimit : Option ℤ) (w : World) : Prop :=
  ∃ result sent, outcome ((runQuery env q).run w) = .ok result ∧
    (finalState ((runQuery env q).run w)).executed = w.executed ++ sent ∧
    LimitsExact env parsed D (callerCap q.limit sqlLimit) result sent

/-- The literal of the root `LIMIT` is read, or the limit argument is no larger, or the literal makes
no difference. -/
def LimitHeeded (env : ExecutorEnv) (q : QueryCall) (parsed : ParsedQuery)
    (D : List (List Value)) (sqlLimit : Option ℤ) : Prop :=
  extractLimit parsed.ast = sqlLimit ∨ givenCap q.limit ≤ givenCap sqlLimit ∨
    ∃ n, sqlLimit = some n ∧ MakesNoDifference env.settings.limits D q.limit n.toNat

/-- The limit pipeline is exact for a query whose root `LIMIT` is absent or an integer literal
exactly when that literal is heeded. -/
theorem limits_exact_iff (env : ExecutorEnv) (q : QueryCall) (parsed : ParsedQuery)
    (D : List (List Value)) (sqlLimit : Option ℤ) (w : World)
    (hlimits : env.settings.limits.Ordered) (hserves : Serves env q parsed D)
    (hroot : RootLimit parsed.ast sqlLimit) :
    PipelineExact env q parsed D sqlLimit w ↔ LimitHeeded env q parsed D sqlLimit := by
  obtain ⟨result, sent, hanswer, hsent, hexact, hshown⟩ :=
    limitsExact_of_serves hserves hlimits w
  -- the run has one outcome, so the statement speaks of its result
  have hpipeline : PipelineExact env q parsed D sqlLimit w ↔
      LimitsExact env parsed D (callerCap q.limit sqlLimit) result sent := by
    constructor
    · rintro ⟨result', sent', hanswer', hsent', hexact'⟩
      obtain rfl : result = result' := Except.ok.inj (hanswer.symm.trans hanswer')
      obtain rfl : sent = sent' := List.append_cancel_left (hsent.symm.trans hsent')
      exact hexact'
    · intro hexact'
      exact ⟨result, sent, hanswer, hsent, hexact'⟩
  rw [hpipeline]
  unfold LimitHeeded
  rcases extractLimit_of_rootLimit hroot with hread | hunread
  · rw [hread] at hexact
    exact ⟨fun _ => Or.inl hread, fun _ => hexact⟩
  · have hargument : callerCap q.limit none = givenCap q.limit := min_top_right _
    rw [hunread, hargument] at hexact hshown
    by_cases hle : givenCap q.limit ≤ givenCap sqlLimit
    · have hsame : callerCap q.limit sqlLimit = givenCap q.limit := min_eq_left hle
      rw [hsame]
      exact ⟨fun _ => Or.inr (Or.inl hle), fun _ => hexact⟩
    · have hlower : givenCap sqlLimit < givenCap q.limit := not_le.mp hle
      have hsql : callerCap q.limit sqlLimit = givenCap sqlLimit := min_eq_right hlower.le
      cases sqlLimit with
      | none => exact absurd hlower (not_lt.mpr le_top)
      | some n =>
        have hpresent : ¬extractLimit parsed.ast = some n := by
          rw [hunread]
          exact (Option.some_ne_none n).symm
        have hpositive : 0 < givenCap (some n) ↔ 0 < n.toNat := by
          rw [pos_iff_ne_zero, pos_iff_ne_zero]
          exact Nat.cast_ne_zero
        rw [hsql, limitsExact_lower_iff hlimits hexact hlower, hpositive]
        simp only [hpresent, hle, false_or, Option.some.injEq, exists_eq_left']
        exact and_congr_right fun _ => shown_lower_iff hshown

end Exact

/-! ## A server over four notes -/

/-- `SELECT x FROM notes LIMIT text`. -/
def limitedNotes (text : PyStr) : Expression :=
  .selectQuery .this [.columnRef .expressions "x"]
    [.fromClause (.tableRef "notes"),
      .node ⟨.limit, .limit⟩ [.node ⟨.literal text false, .expression⟩ []]]

/-- The text of the root `LIMIT`. -/
def rootLimitText (ast : Expression) : PyStr :=
  match ((rootLimitNode ast).bind (ExprLoc.arg · .expression)).map ExprLoc.cls with
  | some (.literal this _) => this
  | _ => []

/-- sqlglot on `SELECT x FROM notes LIMIT text`. -/
def limitedSqlglot (text : PyStr) : Sqlglot where
  parse _ := .ok [some (limitedNotes text)]
  sql ast _ := .ok (lit "SELECT x FROM notes LIMIT " ++ rootLimitText ast)
  limit _ n := .ok (limitedNotes (ofInt n))

/-- The rows of `notes`. -/
def noteRows : List (List Value) := [[.int 1], [.int 2], [.int 3], [.int 4]]

/-- A server over `notes` with a default limit of two and a hard limit of three. -/
def limitedEnv [UnicodeDatabase] (text : PyStr) : ExecutorEnv :=
  { exampleExecutorEnv (limitedSqlglot text) fun sql =>
      noteRows.take ((pyInt (sql.drop 26)).getD 0).toNat with
    settings := { exampleSettings with limits := ⟨2, 3, 65536⟩ }
    createRow := fun _ => .ok () }

/-- The call of `SELECT x FROM notes LIMIT text` without a limit argument. -/
def limitedCall (text : PyStr) : QueryCall :=
  { exampleCall "" none with rawSql := lit "SELECT x FROM notes LIMIT " ++ text }

/-- Its parse. -/
def limitedParsed (text : PyStr) : ParsedQuery :=
  ⟨limitedNotes text, lit "SELECT x FROM notes LIMIT " ++ text, {lit "notes"}⟩

/-- The server answers whatever the literal is. -/
theorem serves_limitedNotes (text : PyStr) :
    letI := asciiDatabase
    Serves (limitedEnv text) (limitedCall text) (limitedParsed text) noteRows := by
  let _ := asciiDatabase
  refine ⟨rfl, rfl, ⟨{lit "notes"}, rfl, rfl⟩, ?_, rfl, fun _ => rfl, rfl, ⟨.none, rfl, trivial⟩,
    ?_, ?_⟩
  · intro n hpos hle
    have hbound : n ≤ 4 := hle
    obtain rfl | rfl | rfl | rfl : n = 1 ∨ n = 2 ∨ n = 3 ∨ n = 4 := by omega
    · exact ⟨_, _, rfl, by decide, rfl, rfl⟩
    · exact ⟨_, _, rfl, by decide, rfl, rfl⟩
    · exact ⟨_, _, rfl, by decide, rfl, rfl⟩
    · exact ⟨_, _, rfl, by decide, rfl, rfl⟩
  · intro row hrow
    obtain rfl | rfl | rfl | rfl : row = [.int 1] ∨ row = [.int 2] ∨ row = [.int 3] ∨
        row = [.int 4] := by simpa [noteRows] using hrow
    · exact ⟨_, rfl⟩
    · exact ⟨_, rfl⟩
    · exact ⟨_, rfl⟩
    · exact ⟨_, rfl⟩
  · intro row
    exact confined_ok _ _

/-- The root `LIMIT` of the statement. -/
theorem rootLimit_limitedNotes [UnicodeDatabase] {text : PyStr} {n : ℤ}
    (h : integerText text = some n) : RootLimit (limitedNotes text) (some n) :=
  .literal rfl rfl rfl h

/-- `LIMIT 5` over four rows: the literal is read, and the hard limit cuts. -/
theorem limits_exact_iff_hardLimit :
    letI := asciiDatabase
    PipelineExact (limitedEnv (lit "5")) (limitedCall (lit "5")) (limitedParsed (lit "5")) noteRows
        (some 5) emptyWorld ↔
      LimitHeeded (limitedEnv (lit "5")) (limitedCall (lit "5")) (limitedParsed (lit "5")) noteRows
        (some 5) := by
  let _ := asciiDatabase
  have hroot : RootLimit (limitedNotes (lit "5")) (some 5) := rootLimit_limitedNotes (by decide)
  exact limits_exact_iff (limitedEnv (lit "5")) (limitedCall (lit "5")) (limitedParsed (lit "5"))
    noteRows (some 5) emptyWorld ⟨by decide, by decide⟩ (serves_limitedNotes (lit "5")) hroot

/-- One, written with leading zeros. -/
def paddedOne (zeros : ℕ) : PyStr := List.replicate zeros 0x30 ++ [0x31]

theorem paddedOne_ne_nil (zeros : ℕ) : paddedOne zeros ≠ [] :=
  List.append_ne_nil_of_right_ne_nil _ (List.cons_ne_nil _ _)

theorem digits_paddedOne (zeros : ℕ) : ∀ c ∈ paddedOne zeros, isAsciiDigit c = true := by
  intro c hc
  rcases List.mem_append.mp hc with hzero | hone
  · rw [List.eq_of_mem_replicate hzero]
    decide
  · rw [List.mem_singleton.mp hone]
    decide

/-- Leading zeros do not change the value. -/
theorem integerText_paddedOne [UnicodeDatabase] (zeros : ℕ) :
    integerText (paddedOne zeros) = some 1 := by
  have hvalue : ((paddedOne zeros).map fun c => c.val - 0x30).foldl
      (fun n d => 10 * n + d) 0 = 1 := by
    unfold paddedOne
    rw [List.map_append, List.foldl_append]
    induction zeros with
    | zero => rfl
    | succ zeros ih =>
      rw [List.replicate_succ, List.map_cons, List.foldl_cons]
      exact ih
  unfold integerText
  rw [readSigned_of_digits (paddedOne_ne_nil zeros) (digits_paddedOne zeros), Option.map_some]
  unfold signedValue
  rw [hvalue]
  rfl

/-- `int()` refuses a numeral of more than 4300 digits. -/
theorem pyInt_paddedOne [UnicodeDatabase] {zeros : ℕ} (h : intMaxStrDigits ≤ zeros) :
    pyInt (paddedOne zeros) = none := by
  have hlong : ¬((paddedOne zeros).map fun c => c.val - 0x30).length ≤ intMaxStrDigits := by
    unfold paddedOne
    rw [List.length_map, List.length_append, List.length_replicate, List.length_singleton]
    omega
  unfold pyInt
  rw [readSigned_of_digits (paddedOne_ne_nil zeros) (digits_paddedOne zeros)]
  show (if ((paddedOne zeros).map fun c => c.val - 0x30).length ≤ intMaxStrDigits then
    some (signedValue false _) else none) = none
  rw [if_neg hlong]

/-- The rows the server returns when the literal is not read: as many as its default. -/
theorem rows_limitedNotes {text : PyStr} {result : QueryResult} :
    letI := asciiDatabase
    pyInt text = none →
      outcome ((runQuery (limitedEnv text) (limitedCall text)).run emptyWorld) = .ok result →
        result.rows = [[.int 1], [.int 2]] := by
  let _ := asciiDatabase
  intro htext hanswer
  have hextract : extractLimit (limitedNotes text) = none := htext
  have hexplicit : explicitLimits (limitedCall text).limit (limitedParsed text).ast = [] := by
    unfold explicitLimits
    show [none, extractLimit (limitedNotes text)].filterMap id = []
    rw [hextract]
    rfl
  have heffective : effectiveLimit (limitedEnv text).settings.limits
      (explicitLimits (limitedCall text).limit (limitedParsed text).ast) = (2 : ℕ) := by
    rw [hexplicit]
    rfl
  have hcapped : capRows 65536 ((noteRows.take 3).take 2) =
      .ok ⟨[[.int 1], [.int 2]], 6, false⟩ := by decide
  have hhard : ((2 : ℕ) : ℤ) ≤ 3 := by decide
  have hserves := serves_limitedNotes text
  rcases run_steps_of_serves hserves heffective hhard with
    ⟨htwo, -⟩ | ⟨-, limited, sql, before, columns, capped, -, -, -, hcapped', hsteps⟩
  · omega
  · obtain rfl : (⟨[[.int 1], [.int 2]], 6, false⟩ : Kept (List Cell)) = capped :=
      Except.ok.inj (hcapped.symm.trans hcapped')
    have hran := (runQuery_answers hsteps (hserves.audits _) emptyWorld).1
    rw [hanswer] at hran
    rw [Except.ok.inj hran]

/-- A literal of more than 4300 digits is not read, and the server's default takes its place. -/
theorem limits_not_always_exact :
    ¬∀ (_ : UnicodeDatabase) (env : ExecutorEnv) (q : QueryCall) (parsed : ParsedQuery)
        (D : List (List Value)) (sqlLimit : Option ℤ) (w : World),
      env.settings.limits.Ordered → Serves env q parsed D → RootLimit parsed.ast sqlLimit →
        PipelineExact env q parsed D sqlLimit w := by
  intro hexact
  let _ := asciiDatabase
  have hroot := rootLimit_limitedNotes (integerText_paddedOne intMaxStrDigits)
  obtain ⟨result, sent, hanswer, -, hlimits⟩ := hexact asciiDatabase
    (limitedEnv (paddedOne intMaxStrDigits)) (limitedCall (paddedOne intMaxStrDigits))
    (limitedParsed (paddedOne intMaxStrDigits)) noteRows (some 1) emptyWorld
    ⟨by decide, by decide⟩ (serves_limitedNotes _) hroot
  have hrows := rows_limitedNotes (pyInt_paddedOne le_rfl) hanswer
  obtain ⟨pre, rest, -, himage, hcap⟩ := hlimits.rows
  have hlength : pre.length = 2 := by
    rw [himage.length_eq, hrows]
    rfl
  have hone : rowCap (limitedEnv (paddedOne intMaxStrDigits)).settings.limits
      (callerCap (limitedCall (paddedOne intMaxStrDigits)).limit (some 1)) = ((1 : ℕ) : ℕ∞) := rfl
  rw [hlength, hone, Nat.cast_le] at hcap
  exact absurd hcap (by decide)

end McpSql
