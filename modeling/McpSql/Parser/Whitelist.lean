import McpSql.Parser.ParseAndValidate

/-!
# The whitelist decision

Only the last line of the loop over tables reads the whitelist, and only to ask whether the name it
is about to record is in it.  So a statement accepted under one whitelist is accepted under another
exactly when that one contains the recorded names, and then with the same result.
-/

namespace McpSql

open Python PyStr Located Raising

section Decision

variable [UnicodeDatabase]

/-! ## The loop over tables -/

/-- A passed table is passed under every whitelist that has its name if the loop records it. -/
theorem TableAdmitted.whitelist {allowedLower other : Finset PyStr} {table : ExprLoc}
    (h : TableAdmitted allowedLower table)
    (hname : resolvesToCte table (loweredName table) = false → loweredName table ∈ other) :
    TableAdmitted other table :=
  { h with allowed := hname }

/-- The recorded names are whitelisted. -/
theorem referenced_subset {ast : Expression} {allowedTables referenced : Finset PyStr}
    (h : checkTables ast allowedTables = .ok referenced) :
    referenced ⊆ allowedTables.image lower := by
  obtain ⟨hadmitted, rfl⟩ := checkTables_eq_ok.mp h
  intro name hname
  obtain ⟨t, ht, hcte, rfl⟩ := mem_uncoveredNames.mp hname
  exact (hadmitted t ht).allowed hcte

/-- The tables of a statement pass under every whitelist of the recorded names. -/
theorem checkTables_whitelist {ast : Expression} {allowedTables otherTables : Finset PyStr}
    {referenced : Finset PyStr} (h : checkTables ast allowedTables = .ok referenced)
    (hsub : referenced ⊆ otherTables.image lower) :
    checkTables ast otherTables = .ok referenced := by
  obtain ⟨hadmitted, rfl⟩ := checkTables_eq_ok.mp h
  refine checkTables_eq_ok.mpr ⟨fun t ht => ?_, rfl⟩
  refine (hadmitted t ht).whitelist fun hcte => ?_
  exact hsub (mem_uncoveredNames.mpr ⟨t, ht, hcte, rfl⟩)

/-- Which names are recorded does not depend on the whitelist. -/
theorem referenced_unique {ast : Expression} {allowedTables otherTables : Finset PyStr}
    {referenced referenced' : Finset PyStr} (h : checkTables ast allowedTables = .ok referenced)
    (h' : checkTables ast otherTables = .ok referenced') : referenced' = referenced := by
  obtain ⟨-, rfl⟩ := checkTables_eq_ok.mp h
  exact (checkTables_eq_ok.mp h').2

/-! ## All checks -/

/-- The other checks do not read the whitelist. -/
theorem Accepted.whitelist {ast : Expression} {allowedTables otherTables : Finset PyStr}
    {referenced : Finset PyStr} {banSelectStar : Bool}
    (h : Accepted ast allowedTables referenced banSelectStar)
    (hsub : referenced ⊆ otherTables.image lower) :
    Accepted ast otherTables referenced banSelectStar :=
  { h with tables := checkTables_whitelist h.tables hsub }

/-- Without the ban on `SELECT *` there are two checks less. -/
theorem Accepted.allowSelectStar {ast : Expression} {allowedTables referenced : Finset PyStr}
    {banSelectStar : Bool} (h : Accepted ast allowedTables referenced banSelectStar) :
    Accepted ast allowedTables referenced false :=
  { h with noSelectStar := by simp, noWholeRowRefs := by simp }

/-- A statement accepted under one whitelist names whitelisted tables only, is accepted under
another exactly when that one has these tables, then with the same result, and is accepted with the
same result when `SELECT *` is not banned. -/
theorem accepted_iff_whitelisted (sqlglot : Sqlglot) (rawSql : PyStr)
    (allowedTables : Finset PyStr) (banSelectStar : Bool) (parsed : ParsedQuery)
    (h : parseAndValidate sqlglot rawSql allowedTables banSelectStar = .ok parsed) :
    parsed.referencedTables ⊆ allowedTables.image lower ∧
      (∀ otherTables : Finset PyStr,
        ((∃ parsed', parseAndValidate sqlglot rawSql otherTables banSelectStar = .ok parsed') ↔
          parsed.referencedTables ⊆ otherTables.image lower) ∧
        ∀ parsed', parseAndValidate sqlglot rawSql otherTables banSelectStar = .ok parsed' →
          parsed' = parsed) ∧
      parseAndValidate sqlglot rawSql allowedTables false = .ok parsed := by
  obtain ⟨hread, haccepted, hnormalized⟩ := parseAndValidate_eq_ok.mp h
  have hunique : ∀ (otherTables : Finset PyStr) (parsed' : ParsedQuery),
      parseAndValidate sqlglot rawSql otherTables banSelectStar = .ok parsed' →
        parsed' = parsed := by
    intro otherTables parsed' h'
    obtain ⟨hread', haccepted', hnormalized'⟩ := parseAndValidate_eq_ok.mp h'
    have hast : parsed'.ast = parsed.ast := Except.ok.inj (hread'.symm.trans hread)
    rw [hast] at haccepted' hnormalized'
    have htables : parsed'.referencedTables = parsed.referencedTables :=
      referenced_unique haccepted.tables haccepted'.tables
    have hsql : parsed'.normalizedSql = parsed.normalizedSql :=
      Except.ok.inj (hnormalized'.symm.trans hnormalized)
    rcases parsed' with ⟨ast', sql', tables'⟩
    rcases parsed with ⟨ast, sql, tables⟩
    rw [ParsedQuery.mk.injEq]
    exact ⟨hast, hsql, htables⟩
  refine ⟨referenced_subset haccepted.tables,
    fun otherTables => ⟨⟨?_, ?_⟩, hunique otherTables⟩, ?_⟩
  · rintro ⟨parsed', h'⟩
    obtain ⟨-, haccepted', -⟩ := parseAndValidate_eq_ok.mp h'
    rw [← hunique otherTables parsed' h']
    exact referenced_subset haccepted'.tables
  · intro hsub
    exact ⟨parsed, parseAndValidate_eq_ok.mpr ⟨hread, haccepted.whitelist hsub, hnormalized⟩⟩
  · exact parseAndValidate_eq_ok.mpr ⟨hread, haccepted.allowSelectStar, hnormalized⟩

end Decision

/-- `WITH recent AS (SELECT x FROM notes) SELECT x FROM recent`. -/
def recentNotesQuery : Expression :=
  .selectQuery .this [.columnRef .expressions "x"]
    [.withClause [.cteOf "recent" (.selectQuery .this [.columnRef .expressions "x"]
        [.fromClause (.tableRef "notes")])],
      .fromClause (.tableRef "recent")]

/-- A profile that exposes other tables as well runs the same statement. -/
theorem accepted_iff_whitelisted_recentNotes :
    letI := asciiDatabase
    let text := lit "WITH recent AS (SELECT x FROM notes) SELECT x FROM recent"
    let sqlglot := Sqlglot.on recentNotesQuery text
    let parsed := ParsedQuery.mk recentNotesQuery text {lit "notes"}
    parsed.referencedTables ⊆ ({lit "Notes", lit "users"} : Finset PyStr).image lower ∧
      (∀ otherTables : Finset PyStr,
        ((∃ parsed', parseAndValidate sqlglot text otherTables true = .ok parsed') ↔
          parsed.referencedTables ⊆ otherTables.image lower) ∧
        ∀ parsed', parseAndValidate sqlglot text otherTables true = .ok parsed' →
          parsed' = parsed) ∧
      parseAndValidate sqlglot text {lit "Notes", lit "users"} false = .ok parsed :=
  letI := asciiDatabase
  accepted_iff_whitelisted _ _ {lit "Notes", lit "users"} true _ (by rfl)

end McpSql
