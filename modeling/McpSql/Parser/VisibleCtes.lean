import McpSql.Parser.Scope

/-!
# References to visible CTEs

`_check_tables` looks at no reference that Postgres resolves to a CTE: the walk of
`_resolves_to_cte` goes up to every query that decorates one, so the loop runs as if these
references were not there.  The one exception is the `pg_` prefix, which is looked for in the
lowered name before the scope is consulted.
-/

namespace McpSql

open Python PyStr Located Raising

/-- A node carries at most one `WITH`, as sqlglot keeps it under one key, and a node that carries
one has the `ctes` accessor.  The statements without it that may carry one (`UPDATE`, `DELETE`,
`MERGE`) are no queries, and inside a CTE `_check_ctes_read_only` refuses them. -/
def WithsDecorateQueries (ast : Expression) : Prop :=
  ∀ node ∈ (Loc.root ast).bfs, (ExprLoc.args node .with_).length ≤ 1 ∧
    (ExprLoc.args node .with_ ≠ [] → (ExprLoc.cls node).hasCtes = true)

instance (ast : Expression) : Decidable (WithsDecorateQueries ast) := by
  unfold WithsDecorateQueries
  infer_instance

/-! ## A visible CTE is an enclosing one -/

/-- A node that carries a CTE carries a `WITH`. -/
theorem args_with_ne_nil {query cte : ExprLoc} (h : cte ∈ query.withCtes) :
    query.args .with_ ≠ [] := by
  intro hnil
  simp [ExprLoc.withCtes, ExprLoc.withNode, ExprLoc.arg, hnil] at h

/-- The only child under a key is the one read from it. -/
theorem arg_of_mem_args {l m : ExprLoc} {k : ArgKey} (hone : (l.args k).length ≤ 1)
    (h : m ∈ l.args k) : l.arg k = some m := by
  unfold ExprLoc.arg
  rcases hargs : l.args k with _ | ⟨a, rest⟩
  · simp [hargs] at h
  · have hrest : rest = [] := by
      rw [hargs, List.length_cons] at hone
      exact List.eq_nil_of_length_eq_zero (by omega)
    rw [hargs, hrest, List.mem_singleton] at h
    rw [h, List.head?_cons]

/-- A CTE visible at a step is one of the node the step starts from. -/
theorem mem_withCtes_of_visibleCtes {f : Frame Node} {rest : List (Frame Node)} {below : ℕ}
    {cte : ExprLoc} (hone : (ExprLoc.args (frameLoc f rest) .with_).length ≤ 1)
    (h : cte ∈ visibleCtes f rest below) : cte ∈ ExprLoc.withCtes (frameLoc f rest) := by
  unfold visibleCtes at h
  split at h
  · next c hc =>
      split_ifs at h with hkey
      · have hwith : (frameLoc f rest).child f.index c ∈ ExprLoc.args (frameLoc f rest) .with_ :=
          ExprLoc.mem_args.mpr ⟨Loc.mem_children_iff.mpr ⟨f.index, c, hc, rfl⟩, hkey⟩
        have hnode : ExprLoc.withNode (frameLoc f rest) =
            some ((frameLoc f rest).child f.index c) := arg_of_mem_args hone hwith
        obtain ⟨hprior, hexpr⟩ := List.mem_filter.mp h
        unfold ExprLoc.withCtes
        rw [hnode]
        exact ExprLoc.mem_args.mpr ⟨List.mem_of_mem_take hprior, by simpa using hexpr⟩
      · exact h
  · exact h

/-- A CTE visible along a path belongs to the `WITH` of an ancestor. -/
theorem mem_withCtes_of_visibleFrom {above : List (Frame Node)} {below : ℕ} {cte : ExprLoc}
    (hone : ∀ p ∈ Loc.ancestorsOf above, (ExprLoc.args p .with_).length ≤ 1)
    (h : cte ∈ visibleFrom above below) :
    ∃ p ∈ Loc.ancestorsOf above, cte ∈ ExprLoc.withCtes p := by
  induction above generalizing below with
  | nil => simp [visibleFrom] at h
  | cons f rest ih =>
    have hhead : frameLoc f rest ∈ Loc.ancestorsOf (f :: rest) := by
      simp [Loc.ancestorsOf, frameLoc]
    have htail : ∀ p ∈ Loc.ancestorsOf rest, p ∈ Loc.ancestorsOf (f :: rest) := by
      intro p hp
      simp [Loc.ancestorsOf, hp]
    rw [visibleFrom, List.mem_append] at h
    rcases h with h | h
    · exact ⟨frameLoc f rest, hhead, mem_withCtes_of_visibleCtes (hone _ hhead) h⟩
    · obtain ⟨p, hp, hcte⟩ := ih (fun p hp => hone p (htail p hp)) h
      exact ⟨p, htail p hp, hcte⟩

/-- The scoping rule sees no CTE that the walk over enclosing queries misses. -/
theorem mem_enclosingCtes_of_visible {ast : Expression} (hwith : WithsDecorateQueries ast)
    {table cte : ExprLoc} (htable : Loc.Below (Loc.root ast) table)
    (h : cte ∈ visibleFrom table.above 0) : cte ∈ enclosingCtes table := by
  have hancestor : ∀ p ∈ table.ancestors, p ∈ (Loc.root ast).bfs := fun p hp =>
    Loc.mem_bfs_iff.mpr (Expression.below_root_of_ancestor htable hp)
  obtain ⟨p, hp, hcte⟩ :=
    mem_withCtes_of_visibleFrom (fun p hp => (hwith p (hancestor p hp)).1) h
  have hctes : (ExprLoc.cls p).hasCtes = true :=
    (hwith p (hancestor p hp)).2 (args_with_ne_nil hcte)
  refine List.mem_flatMap.mpr ⟨p, hp, ?_⟩
  rw [ExprLoc.ctes, if_pos hctes]
  exact hcte

/-- An unqualified table has no schema. -/
theorem tableDb_of_unqualified {c : Cls} (h : c.isQualifiedTable = false) : c.tableDb = [] := by
  unfold Cls.isQualifiedTable at h
  split at h
  · next db name alias_ =>
      rcases db with _ | db
      · rfl
      · simp at h
  · next hother =>
      unfold Cls.tableDb
      split
      · next db name alias_ => exact absurd rfl (hother db name alias_)
      · rfl

section Resolution

variable [UnicodeDatabase]

/-- A table reference that resolves to a visible CTE and is no `pg_` name once lowered.  Postgres
has no empty identifier. -/
structure CteReference (table : ExprLoc) : Prop where
  resolves : (pgResolve table).isSome = true
  named : table.cls.tableName ≠ []
  notPg : startsWith (lit "pg_") (loweredName table) = false

instance (table : ExprLoc) : Decidable (CteReference table) :=
  decidable_of_iff ((pgResolve table).isSome = true ∧ table.cls.tableName ≠ [] ∧
    startsWith (lit "pg_") (loweredName table) = false)
    ⟨fun ⟨hr, hn, hp⟩ => ⟨hr, hn, hp⟩, fun ⟨hr, hn, hp⟩ => ⟨hr, hn, hp⟩⟩

/-! ## The loop skips it -/

/-- Equal Postgres names are equal once lowered. -/
theorem sharesName_of_namesCte {table cte : ExprLoc} (hnamed : table.cls.tableName ≠ [])
    (h : namesCte table cte = true) : SharesName table cte := by
  unfold namesCte at h
  split at h
  · next db name alias_ a htable hcte =>
      have hfolded : a.folded = name.folded := by simpa using h
      have htext : cte.cls.aliasText = a.this := by
        rw [Cls.aliasText, hcte, identText, Option.map_some, Option.getD_some]
      have hname : table.cls.tableName = name.this := by
        rw [htable, Cls.tableName, identText, Option.map_some, Option.getD_some]
      have hlower : lower a.this = lower name.this := by
        rw [← lower_folded a, hfolded, lower_folded]
      refine ⟨?_, by rw [htext, loweredName, hname, hlower]⟩
      intro hempty
      rw [htext] at hempty
      rw [hname] at hnamed
      refine UnicodeDatabase.lower_ne_nil name.this hnamed ?_
      rw [← hlower, hempty, lower_nil]
  · exact absurd h (by simp)

omit [UnicodeDatabase] in
/-- What resolving to a CTE takes: an unqualified name that a visible CTE has. -/
theorem visible_of_pgResolve {table cte : ExprLoc} (h : pgResolve table = some cte) :
    table.cls.isQualifiedTable = false ∧ cte ∈ visibleFrom table.above 0 ∧
      namesCte table cte = true := by
  unfold pgResolve at h
  split_ifs at h with hqualified
  exact ⟨by simpa using hqualified, List.mem_of_find?_eq_some h, List.find?_some h⟩

/-- The walk over enclosing queries takes a reference to a visible CTE for one. -/
theorem resolvesToCte_of_cteReference {ast : Expression} (hwith : WithsDecorateQueries ast)
    {table : ExprLoc} (htable : Loc.Below (Loc.root ast) table) (h : CteReference table) :
    resolvesToCte table (loweredName table) = true := by
  obtain ⟨cte, hcte⟩ := Option.isSome_iff_exists.mp h.resolves
  obtain ⟨-, hvisible, hnames⟩ := visible_of_pgResolve hcte
  exact resolvesToCte_iff.mpr ⟨cte, mem_enclosingCtes_of_visible hwith htable hvisible,
    sharesName_of_namesCte h.named hnames⟩

/-- The body of the loop passes over a reference to a visible CTE, whatever is whitelisted. -/
theorem checkTable_of_cteReference {ast : Expression} (hwith : WithsDecorateQueries ast)
    {table : ExprLoc} (htable : Loc.Below (Loc.root ast) table) (h : CteReference table)
    (allowedLower : Finset PyStr) : checkTable allowedLower table = .ok none := by
  have hcte := resolvesToCte_of_cteReference hwith htable h
  obtain ⟨cte, hresolve⟩ := Option.isSome_iff_exists.mp h.resolves
  have hschema : lower table.cls.tableDb = [] := by
    rw [tableDb_of_unqualified (visible_of_pgResolve hresolve).1, lower_nil]
  refine checkTable_eq_ok.mpr ⟨⟨?_, ?_, fun _ => h.notPg, fun hnot => ?_⟩, by rw [if_pos hcte]⟩
  · exact UnicodeDatabase.lower_ne_nil _ h.named
  · rw [hschema]
    decide
  · rw [hcte] at hnot
    exact absurd hnot (by decide)

/-- References that the body passes over can be left out of the loop. -/
theorem checkTablesFrom_filter {allowedLower : Finset PyStr} {p : ExprLoc → Bool}
    {tables : List ExprLoc} (h : ∀ t ∈ tables, p t = false → checkTable allowedLower t = .ok none)
    (referenced : Finset PyStr) :
    checkTablesFrom allowedLower (tables.filter p) referenced =
      checkTablesFrom allowedLower tables referenced := by
  induction tables generalizing referenced with
  | nil => rfl
  | cons table tables ih =>
    have htail := ih fun t ht => h t (List.mem_cons_of_mem table ht)
    by_cases hp : p table = true
    · rw [List.filter_cons_of_pos hp]
      simp only [checkTablesFrom, htail]
    · have hskip : checkTable allowedLower table = .ok none :=
        h table List.mem_cons_self (by simpa using hp)
      rw [List.filter_cons_of_neg hp, htail]
      simp only [checkTablesFrom, hskip]
      rfl

/-- `_check_tables` passes over every reference to a visible CTE, and its outcome is that of the
loop over the other tables. -/
theorem checkTables_skips_visible (ast : Expression) (hwith : WithsDecorateQueries ast)
    (allowedTables : Finset PyStr) :
    (∀ t ∈ ast.findAll Cls.isTable, CteReference t →
        checkTable (allowedTables.image lower) t = .ok none) ∧
      checkTables ast allowedTables =
        checkTablesFrom (allowedTables.image lower)
          ((ast.findAll Cls.isTable).filter fun t => ¬CteReference t) ∅ := by
  have hskip : ∀ t ∈ ast.findAll Cls.isTable, CteReference t →
      checkTable (allowedTables.image lower) t = .ok none := fun t ht hcte =>
    checkTable_of_cteReference hwith (Expression.mem_findAll.mp ht).1 hcte _
  refine ⟨hskip, ?_⟩
  unfold checkTables
  rw [checkTablesFrom_filter]
  intro t ht hp
  exact hskip t ht (by simpa using hp)

end Resolution

/-- `WITH a AS (SELECT x FROM notes), b AS (SELECT x FROM a) SELECT x FROM b`. -/
def siblingQuery : Expression :=
  .selectQuery .this [.columnRef .expressions "x"]
    [.withClause [.cteOf "a" (.selectQuery .this [.columnRef .expressions "x"]
        [.fromClause (.tableRef "notes")]),
      .cteOf "b" (.selectQuery .this [.columnRef .expressions "x"]
        [.fromClause (.tableRef "a")])],
      .fromClause (.tableRef "b")]

theorem checkTables_skips_visible_siblingQuery :
    letI := asciiDatabase
    (∀ t ∈ siblingQuery.findAll Cls.isTable, CteReference t →
        checkTable (({lit "notes"} : Finset PyStr).image lower) t = .ok none) ∧
      checkTables siblingQuery {lit "notes"} =
        checkTablesFrom (({lit "notes"} : Finset PyStr).image lower)
          ((siblingQuery.findAll Cls.isTable).filter fun t => ¬CteReference t) ∅ :=
  letI := asciiDatabase
  checkTables_skips_visible siblingQuery (by decide) {lit "notes"}

/-- The name of a table as Postgres compares it. -/
def Cls.foldedTableName : Cls → PyStr
  | .table _ (some name) _ => name.folded
  | _ => []

/-- `WITH "PG_x" AS (SELECT x FROM notes) SELECT x FROM "PG_x"`. -/
def quotedCteQuery : Expression :=
  .selectQuery .this [.columnRef .expressions "x"]
    [.withClause [.node ⟨.cte (some ⟨some ⟨lit "PG_x", true⟩, []⟩), .expressions⟩
        [Expression.selectQuery .this [.columnRef .expressions "x"]
          [.fromClause (.tableRef "notes")]]],
      .fromClause (.node ⟨.table none (some ⟨lit "PG_x", true⟩) none, .this⟩ [])]

/-- A reference to the visible CTE `"PG_x"` is refused: no Postgres name of it begins with `pg_`,
but the lowered name does. -/
theorem visible_cte_sometimes_rejected :
    ¬∀ (_ : UnicodeDatabase) (ast : Expression) (allowedTables : Finset PyStr),
      (∀ w ∈ ast.findAll Cls.isWith, w.cls ≠ .with_ true) → WithsDecorateQueries ast →
        ∀ t ∈ ast.findAll Cls.isTable, (pgResolve t).isSome = true → t.cls.tableName ≠ [] →
          startsWith (lit "pg_") t.cls.foldedTableName = false →
            checkTable (allowedTables.image lower) t = .ok none := by
  intro hskip
  have hreferred :
      letI := asciiDatabase
      ∃ t ∈ quotedCteQuery.findAll Cls.isTable, ((pgResolve t).isSome = true ∧
        t.cls.tableName ≠ [] ∧ startsWith (lit "pg_") t.cls.foldedTableName = false) ∧
        checkTable ((∅ : Finset PyStr).image lower) t ≠ .ok none := by decide
  obtain ⟨t, ht, ⟨hresolve, hnamed, hpg⟩, hrefused⟩ := hreferred
  exact hrefused (hskip asciiDatabase quotedCteQuery ∅ (by decide) (by decide) t ht hresolve hnamed
    hpg)

end McpSql
