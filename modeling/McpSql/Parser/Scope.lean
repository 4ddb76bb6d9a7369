import McpSql.Parser.Checks
import McpSql.Postgres.Session

/-!
# Table references and CTE scope

Postgres resolves an unqualified table name to the innermost *visible* CTE of that name: the CTEs
of a `WITH` are visible in the query it decorates, and inside the body of one of them only the
earlier ones are.  `pgResolve` is that rule.  `_resolves_to_cte` instead takes any CTE of an
enclosing `WITH` whose lowered name matches, so the whitelist check is sound exactly for the
statements in which a table it skips that way is either no real relation or also occurs where it is
not skipped.
-/

namespace McpSql

open Python PyStr Located Raising

/-! ## How Postgres resolves a table name -/

/-- The CTEs listed before a position in a `WITH`. -/
def priorCtes (w : ExprLoc) (position : ℕ) : List ExprLoc :=
  (w.children.take position).filter (·.key = .expressions)

/-- The CTEs of a query's own `WITH` that can be seen where a path comes down from it.  A path
through the `WITH` itself goes on to the child `below` of it and sees the CTEs before that one. -/
def visibleCtes (f : Frame Node) (rest : List (Frame Node)) (below : ℕ) : List ExprLoc :=
  let query := frameLoc f rest
  match f.child with
  | some c => if c.label.key = .with_ then priorCtes (query.child f.index c) below
    else query.withCtes
  | none => query.withCtes

/-- The CTEs visible along a path, innermost query first. -/
def visibleFrom : List (Frame Node) → ℕ → List ExprLoc
  | [], _ => []
  | f :: rest, below => visibleCtes f rest below ++ visibleFrom rest f.index

/-- The CTEs of a query lie below it. -/
theorem below_of_mem_withCtes {query cte : ExprLoc} (h : cte ∈ query.withCtes) :
    Loc.Below query cte := by
  unfold ExprLoc.withCtes at h
  split at h
  · simp at h
  · next w hw => exact (ExprLoc.below_of_arg hw).trans (ExprLoc.below_of_mem_args h)

/-- A CTE visible at a step lies below the node the step starts from. -/
theorem below_of_mem_visibleCtes {f : Frame Node} {rest : List (Frame Node)} {below : ℕ}
    {cte : ExprLoc} (h : cte ∈ visibleCtes f rest below) : Loc.Below (frameLoc f rest) cte := by
  unfold visibleCtes at h
  split at h
  · next c hc =>
      split_ifs at h
      · have hstep : (frameLoc f rest).child f.index c ∈ (frameLoc f rest).children :=
          Loc.mem_children_iff.mpr ⟨f.index, c, hc, rfl⟩
        exact (Loc.Below.refl.step hstep).step
          (List.mem_of_mem_take (List.mem_of_mem_filter h))
      · exact below_of_mem_withCtes h
  · exact below_of_mem_withCtes h

/-- A visible CTE lies below an ancestor. -/
theorem ancestor_of_visibleFrom {above : List (Frame Node)} {below : ℕ} {cte : ExprLoc}
    (h : cte ∈ visibleFrom above below) : ∃ p ∈ Loc.ancestorsOf above, Loc.Below p cte := by
  induction above generalizing below with
  | nil => simp [visibleFrom] at h
  | cons f rest ih =>
    rw [visibleFrom, List.mem_append] at h
    rcases h with h | h
    · refine ⟨frameLoc f rest, by simp [Loc.ancestorsOf, frameLoc], ?_⟩
      exact below_of_mem_visibleCtes h
    · obtain ⟨p, hp, hbelow⟩ := ih h
      exact ⟨p, by simp [Loc.ancestorsOf, hp], hbelow⟩

/-- The form in which Postgres compares an identifier of at most 63 bytes: unquoted ones fold to
lower case. -/
def Identifier.folded (i : Identifier) : PyStr :=
  if i.quoted then i.this else Postgres.downcase i.this

/-- A CTE has the name a table reference is written with. -/
def namesCte (table cte : ExprLoc) : Bool :=
  match table.cls, cte.cls.aliasIdent with
  | .table _ (some name) _, some alias_ => alias_.folded = name.folded
  | _, _ => false

/-- Whether a table reference is schema-qualified. -/
def Cls.isQualifiedTable : Cls → Bool
  | .table db _ _ => db.isSome
  | _ => false

/-- The CTE Postgres resolves a table reference to; `none` for a real relation. -/
def pgResolve (table : ExprLoc) : Option ExprLoc :=
  if table.cls.isQualifiedTable then none
  else (visibleFrom table.above 0).find? (namesCte table)

section Resolution

variable [UnicodeDatabase]

theorem lower_folded (i : Identifier) : lower i.folded = lower i.this := by
  unfold Identifier.folded
  split_ifs
  · rfl
  · exact UnicodeDatabase.lower_map_asciiLower i.this

/-- What the whitelist check is for: every reference to a real relation names a whitelisted table
and is reported. -/
def TablesWhitelisted (ast : Expression) (allowedTables referenced : Finset PyStr) : Prop :=
  ∀ t ∈ ast.findAll Cls.isTable, pgResolve t = none →
    loweredName t ∈ allowedTables.image lower ∧ loweredName t ∈ referenced

instance (ast : Expression) (allowedTables referenced : Finset PyStr) :
    Decidable (TablesWhitelisted ast allowedTables referenced) := by
  unfold TablesWhitelisted
  infer_instance

/-! ## Where the walk over enclosing queries differs -/

/-- The CTEs of the enclosing `WITH` clauses, as `_resolves_to_cte` reads them. -/
def enclosingCtes (table : ExprLoc) : List ExprLoc :=
  table.ancestors.flatMap ExprLoc.ctes

/-- An enclosing CTE has the lowered name of a table reference. -/
def SharesName (table cte : ExprLoc) : Prop :=
  cte.cls.aliasText ≠ [] ∧ lower cte.cls.aliasText = loweredName table

instance (table cte : ExprLoc) : Decidable (SharesName table cte) := by
  unfold SharesName
  infer_instance

theorem resolvesToCte_iff {table : ExprLoc} :
    resolvesToCte table (loweredName table) = true ↔
      ∃ c ∈ enclosingCtes table, SharesName table c := by
  simp only [resolvesToCte, enclosingCtes, SharesName, List.any_eq_true, List.mem_flatMap,
    Bool.and_eq_true, decide_eq_true_eq]
  constructor
  · rintro ⟨node, hnode, c, hc, h⟩
    exact ⟨c, ⟨node, hnode, hc⟩, h⟩
  · rintro ⟨c, ⟨node, hnode, hc⟩, h⟩
    exact ⟨node, hnode, c, hc, h⟩

/-- The ways in which an enclosing CTE of the same lowered name is not what a table reference
resolves to. -/
inductive Misses (table cte : ExprLoc) : Prop where
  /-- The reference is schema-qualified. -/
  | qualified (h : table.cls.isQualifiedTable = true)
  /-- The CTE is not visible: the reference sits in its own body or in an earlier sibling's. -/
  | notYetVisible (h : cte ∉ visibleFrom table.above 0)
  /-- The names differ once quoted identifiers are compared as written. -/
  | spelledDifferently (h : namesCte table cte = false)

omit [UnicodeDatabase] in
/-- Postgres takes a reference for a real relation although an enclosing CTE has its lowered name,
and then every such CTE is missed in one of the ways above. -/
theorem misses_of_pgResolve_eq_none {table cte : ExprLoc} (h : pgResolve table = none) :
    Misses table cte := by
  by_cases hq : table.cls.isQualifiedTable = true
  · exact .qualified hq
  · by_cases hv : cte ∈ visibleFrom table.above 0
    · rw [pgResolve, if_neg hq, List.find?_eq_none] at h
      exact .spelledDifferently (by simpa using h cte hv)
    · exact .notYetVisible hv

/-- A real relation that `_resolves_to_cte` takes for a CTE. -/
def Masked (table : ExprLoc) : Prop :=
  pgResolve table = none ∧ ∃ c ∈ enclosingCtes table, SharesName table c ∧ Misses table c

theorem masked_iff {table : ExprLoc} :
    Masked table ↔
      pgResolve table = none ∧ resolvesToCte table (loweredName table) = true := by
  rw [resolvesToCte_iff]
  constructor
  · rintro ⟨hreal, c, hc, hname, -⟩
    exact ⟨hreal, c, hc, hname⟩
  · rintro ⟨hreal, c, hc, hname⟩
    exact ⟨hreal, c, hc, hname, misses_of_pgResolve_eq_none hreal⟩

/-- A table reference whose lowered name no enclosing CTE has. -/
def Uncovered (table : ExprLoc) : Prop := ∀ c ∈ enclosingCtes table, ¬SharesName table c

theorem uncovered_iff {table : ExprLoc} :
    Uncovered table ↔ resolvesToCte table (loweredName table) = false := by
  rw [← Bool.not_eq_true, resolvesToCte_iff]
  simp [Uncovered]

/-- An accepted statement reports the names of its uncovered references, which are whitelisted. -/
theorem whitelisted_of_uncovered {ast : Expression} {allowedTables referenced : Finset PyStr}
    (h : checkTables ast allowedTables = .ok referenced) {t : ExprLoc}
    (ht : t ∈ ast.findAll Cls.isTable) (hun : Uncovered t) :
    loweredName t ∈ allowedTables.image lower ∧ loweredName t ∈ referenced := by
  obtain ⟨hadmitted, rfl⟩ := checkTables_eq_ok.mp h
  have hcte := uncovered_iff.mp hun
  exact ⟨(hadmitted t ht).allowed hcte, mem_uncoveredNames.mpr ⟨t, ht, hcte, rfl⟩⟩

/-! ## When the whitelist check is sound -/

/-- An accepted statement mentions only whitelisted relations exactly when each reference masked by
a CTE has the lowered name of a reference that is not covered by any. -/
theorem tables_whitelisted_iff (ast : Expression) (allowedTables referenced : Finset PyStr)
    (h : checkTables ast allowedTables = .ok referenced) :
    TablesWhitelisted ast allowedTables referenced ↔
      ∀ t ∈ ast.findAll Cls.isTable, Masked t →
        ∃ t' ∈ ast.findAll Cls.isTable, Uncovered t' ∧ loweredName t' = loweredName t := by
  constructor
  · intro hsound t ht hmasked
    obtain ⟨-, hreported⟩ := hsound t ht hmasked.1
    obtain ⟨-, rfl⟩ := checkTables_eq_ok.mp h
    obtain ⟨t', ht', hcte, hname⟩ := mem_uncoveredNames.mp hreported
    exact ⟨t', ht', uncovered_iff.mpr hcte, hname⟩
  · intro hcovered t ht hreal
    by_cases hun : Uncovered t
    · exact whitelisted_of_uncovered h ht hun
    · have hcte : resolvesToCte t (loweredName t) = true := by
        simpa [uncovered_iff] using hun
      obtain ⟨t', ht', hun', hname⟩ := hcovered t ht (masked_iff.mpr ⟨hreal, hcte⟩)
      rw [← hname]
      exact whitelisted_of_uncovered h ht' hun'

end Resolution

/-- `WITH secret AS (SELECT x FROM secret) SELECT x FROM secret`: the inner `secret` is a real
relation. -/
def selfNamedQuery : Expression :=
  .selectQuery .this [.columnRef .expressions "x"]
    [.withClause [.cteOf "secret" (.selectQuery .this [.columnRef .expressions "x"]
        [.fromClause (.tableRef "secret")])],
      .fromClause (.tableRef "secret")]

/-- `SELECT x FROM notes UNION (WITH notes AS (SELECT x FROM notes) SELECT x FROM notes)`: the
`notes` in the body of the CTE is the real relation of the first part. -/
def maskedQuery : Expression :=
  .node ⟨.setOperation .union, .this⟩
    [plainQuery,
      .node ⟨.subquery none, .expression⟩
        [Expression.selectQuery .this [.columnRef .expressions "x"]
          [.withClause [.cteOf "notes" (.selectQuery .this [.columnRef .expressions "x"]
              [.fromClause (.tableRef "notes")])],
            .fromClause (.tableRef "notes")]]]

theorem tables_whitelisted_iff_maskedQuery :
    letI := asciiDatabase
    TablesWhitelisted maskedQuery {lit "notes"} {lit "notes"} ↔
      ∀ t ∈ maskedQuery.findAll Cls.isTable, Masked t →
        ∃ t' ∈ maskedQuery.findAll Cls.isTable, Uncovered t' ∧ loweredName t' = loweredName t :=
  letI := asciiDatabase
  tables_whitelisted_iff maskedQuery {lit "notes"} {lit "notes"} (by decide)

/-- The whitelist check is not sound: it accepts a statement that reads `secret` although nothing is
whitelisted. -/
theorem tables_not_always_whitelisted :
    ¬∀ (_ : UnicodeDatabase) (ast : Expression) (allowedTables referenced : Finset PyStr),
      (∀ w ∈ ast.findAll Cls.isWith, w.cls ≠ .with_ true) →
      checkTables ast allowedTables = .ok referenced →
        TablesWhitelisted ast allowedTables referenced := by
  intro hsound
  have haccepted :
      letI := asciiDatabase
      checkTables selfNamedQuery ∅ = .ok ∅ := by decide
  have hmissed :
      letI := asciiDatabase
      ¬TablesWhitelisted selfNamedQuery ∅ ∅ := by decide
  exact hmissed (hsound asciiDatabase selfNamedQuery ∅ ∅ (by decide) haccepted)

end McpSql
