import Mathlib.Data.Finset.Image
import McpSql.Exceptions
import McpSql.Foundations.Raising
import McpSql.Parser.Ast

/-!
# AST checks

The `_check_*` functions of `parser.py`, in the order of the file.  Each walks a class of nodes of
the statement and raises `QueryRejectedError` at the first node it refuses, so that a check returns
exactly when no node is refused; `checkTables` also collects the names of the tables it passes.
-/

namespace McpSql

open Python PyStr Located Raising

variable [UnicodeDatabase]

/-! ## Name lists -/

/-- `DENIED_FUNCTIONS_EXACT`. -/
def deniedFunctionsExact : List PyStr :=
  [lit "copy", lit "current_setting", lit "set_config", lit "dblink", lit "query_to_xml",
    lit "query_to_xmlschema", lit "query_to_xml_and_xmlschema", lit "table_to_xml",
    lit "table_to_xmlschema", lit "table_to_xml_and_xmlschema", lit "cursor_to_xml",
    lit "cursor_to_xmlschema", lit "version", lit "current_version", lit "current_database",
    lit "current_schema", lit "current_schemas", lit "current_user", lit "session_user",
    lit "user", lit "current_role", lit "current_catalog", lit "inet_server_addr",
    lit "inet_server_port", lit "inet_client_addr", lit "inet_client_port", lit "txid_current",
    lit "txid_current_snapshot", lit "row_security_active", lit "nextval", lit "setval",
    lit "currval"]

/-- `DENIED_BARE_KEYWORDS`. -/
def deniedBareKeywords : List PyStr :=
  [lit "current_user", lit "session_user", lit "user", lit "current_role", lit "current_catalog",
    lit "current_schema", lit "current_database"]

/-- `DENIED_FUNCTIONS_PREFIX`. -/
def deniedFunctionsPrefix : List PyStr := [lit "dblink_", lit "lo_", lit "pg_", lit "has_"]

/-- `DENIED_SRF_FUNCTIONS`. -/
def deniedSrfFunctions : List PyStr :=
  [lit "generate_subscripts", lit "regexp_split_to_table", lit "regexp_matches",
    lit "json_array_elements", lit "json_array_elements_text", lit "jsonb_array_elements",
    lit "jsonb_array_elements_text", lit "json_each", lit "json_each_text", lit "jsonb_each",
    lit "jsonb_each_text", lit "json_object_keys", lit "jsonb_object_keys",
    lit "json_to_recordset", lit "jsonb_to_recordset", lit "json_populate_recordset",
    lit "jsonb_populate_recordset"]

/-- `SYSTEM_SCHEMAS`. -/
def systemSchemas : List PyStr := [lit "pg_catalog", lit "information_schema"]

/-! ## Shape checks -/

/-- `_check_ctes_read_only`. -/
def checkCtesReadOnly (ast : Expression) : Except QueryRejectedError Unit :=
  forM (ast.findAll Cls.isCte) fun cte =>
    let body := cte.arg .this
    let name := if cte.cls.aliasText = [] then lit "<unnamed>" else cte.cls.aliasText
    let bodyClass := (body.map fun b => b.cls.className).getD (lit "NoneType")
    raiseIf (¬body.any (·.cls.isQuery)) ⟨.writeableCte,
      lit "CTE '" ++ name ++ lit "' body is " ++ bodyClass ++
        lit "; INSERT/UPDATE/DELETE inside WITH is not allowed"⟩

/-- `_check_no_recursive_cte`. -/
def checkNoRecursiveCte (ast : Expression) : Except QueryRejectedError Unit :=
  forM (ast.findAll Cls.isWith) fun w =>
    raiseIf (w.cls = .with_ true) ⟨.disallowedConstruct,
      lit "WITH RECURSIVE is not supported on the MCP surface. " ++
        lit "Use iterative aggregation (GROUP BY, window functions) " ++
        lit "or escalate to operators."⟩

/-- `_check_no_select_into`. -/
def checkNoSelectInto (ast : Expression) : Except QueryRejectedError Unit :=
  forM (ast.findAll Cls.isSelect) fun sel =>
    raiseIf ((sel.arg .into).isSome) ⟨.selectInto,
      lit "SELECT INTO writes a new table and is not allowed"⟩

/-- Reject a statement in which a class of nodes occurs. -/
def checkNone (p : Cls → Bool) (msg : PyStr) (ast : Expression) :
    Except QueryRejectedError Unit :=
  raiseIf ((ast.findAll p).head?.isSome) ⟨.disallowedConstruct, msg⟩

/-- `_check_no_offset`. -/
def checkNoOffset (ast : Expression) : Except QueryRejectedError Unit :=
  checkNone (· = .offset)
    (lit "OFFSET is not supported. Use keyset pagination " ++
      lit "(WHERE id > <last_seen_id> ORDER BY id LIMIT N) instead.") ast

/-- `_check_no_fetch`. -/
def checkNoFetch (ast : Expression) : Except QueryRejectedError Unit :=
  checkNone (· = .fetch)
    (lit "FETCH FIRST/NEXT ROWS is not supported. Use LIMIT N instead; " ++
      lit "the server clamps it to the configured cap.") ast

/-- `_check_no_locking_reads`. -/
def checkNoLockingReads (ast : Expression) : Except QueryRejectedError Unit :=
  checkNone (· = .lock)
    (lit "Locking reads (FOR UPDATE / FOR SHARE) are not supported on the " ++
      lit "read-only MCP surface.") ast

/-! ## Tables -/

/-- `_resolves_to_cte`: an enclosing query defines a CTE of that name. -/
def resolvesToCte (table : ExprLoc) (name : PyStr) : Bool :=
  table.ancestors.any fun (node : ExprLoc) =>
    node.ctes.any fun cte => cte.cls.aliasText ≠ [] && lower cte.cls.aliasText = name

/-- The lowered name under which `_check_tables` looks a table up. -/
def loweredName (table : ExprLoc) : PyStr := lower table.cls.tableName

/-- The body of the loop of `_check_tables`: the name to record, if any. -/
def checkTable (allowedLower : Finset PyStr) (table : ExprLoc) :
    Except QueryRejectedError (Option PyStr) := do
  let schema := lower table.cls.tableDb
  let name := loweredName table
  raiseIf (name = []) ⟨.disallowedConstruct,
    lit "Table-valued functions in FROM (e.g. generate_series, " ++
      lit "unnest, dblink, json_to_recordset) are not supported on " ++
      lit "the MCP surface; query a whitelisted table instead."⟩
  raiseIf (schema ∈ systemSchemas ∨ startsWith (lit "pg_") schema) ⟨.systemSchema,
    lit "Schema '" ++ schema ++ lit "' is off limits"⟩
  raiseIf (schema = [] ∧ startsWith (lit "pg_") name) ⟨.systemSchema,
    lit "Table '" ++ name ++ lit "' is in the pg_* namespace"⟩
  if resolvesToCte table name then
    return none
  raiseIf (name ∉ allowedLower) ⟨.disallowedTable,
    lit "Table '" ++ name ++ lit "' is not on the MCP whitelist"⟩
  return some name

/-- What a passed table satisfies: it is named, its schema and name are no system names, and unless
an enclosing CTE has its name it is whitelisted. -/
structure TableAdmitted (allowedLower : Finset PyStr) (table : ExprLoc) : Prop where
  named : loweredName table ≠ []
  schema : lower table.cls.tableDb ∉ systemSchemas ∧
    startsWith (lit "pg_") (lower table.cls.tableDb) = false
  name : lower table.cls.tableDb = [] → startsWith (lit "pg_") (loweredName table) = false
  allowed : resolvesToCte table (loweredName table) = false → loweredName table ∈ allowedLower

theorem checkTable_eq_ok {allowedLower : Finset PyStr} {table : ExprLoc} {r : Option PyStr} :
    checkTable allowedLower table = .ok r ↔ TableAdmitted allowedLower table ∧
      r = if resolvesToCte table (loweredName table) then none else some (loweredName table) := by
  unfold checkTable
  simp only [bind_eq_ok, raiseIf_eq_ok, not_or, not_and, Bool.not_eq_true]
  cases hcte : resolvesToCte table (loweredName table) with
  | true =>
    constructor
    · rintro ⟨-, hnamed, -, hschema, -, hname, hr⟩
      exact ⟨⟨hnamed, hschema, hname, by simp [hcte]⟩, by simpa [pure, Except.pure] using hr.symm⟩
    · rintro ⟨⟨hnamed, hschema, hname, -⟩, rfl⟩
      exact ⟨(), hnamed, (), hschema, (), hname, rfl⟩
  | false =>
    simp only [Bool.false_eq_true, if_false, bind_eq_ok, raiseIf_eq_ok, not_not]
    constructor
    · rintro ⟨-, hnamed, -, hschema, -, hname, -, hallowed, hr⟩
      exact ⟨⟨hnamed, hschema, hname, fun _ => hallowed⟩,
        by simpa [pure, Except.pure] using hr.symm⟩
    · rintro ⟨⟨hnamed, hschema, hname, hallowed⟩, rfl⟩
      exact ⟨(), hnamed, (), hschema, (), hname, (), hallowed hcte, rfl⟩

/-- The loop of `_check_tables`, with the names recorded so far. -/
def checkTablesFrom (allowedLower : Finset PyStr) :
    List ExprLoc → Finset PyStr → Except QueryRejectedError (Finset PyStr)
  | [], referenced => return referenced
  | table :: tables, referenced => do
    match ← checkTable allowedLower table with
    | none => checkTablesFrom allowedLower tables referenced
    | some name => checkTablesFrom allowedLower tables (insert name referenced)

/-- `_check_tables`. -/
def checkTables (ast : Expression) (allowedTables : Finset PyStr) :
    Except QueryRejectedError (Finset PyStr) :=
  checkTablesFrom (allowedTables.image lower) (ast.findAll Cls.isTable) ∅

/-- The names of the tables that no enclosing CTE has the name of. -/
def uncoveredNames (tables : List ExprLoc) : Finset PyStr :=
  ((tables.filter fun t => !resolvesToCte t (loweredName t)).map loweredName).toFinset

theorem mem_uncoveredNames {tables : List ExprLoc} {name : PyStr} :
    name ∈ uncoveredNames tables ↔
      ∃ t ∈ tables, resolvesToCte t (loweredName t) = false ∧ loweredName t = name := by
  simp [uncoveredNames, and_assoc]

theorem checkTablesFrom_eq_ok {allowedLower : Finset PyStr} {tables : List ExprLoc}
    {referenced result : Finset PyStr} :
    checkTablesFrom allowedLower tables referenced = .ok result ↔
      (∀ t ∈ tables, TableAdmitted allowedLower t) ∧
        result = referenced ∪ uncoveredNames tables := by
  induction tables generalizing referenced with
  | nil =>
    have hnone : uncoveredNames [] = ∅ := rfl
    simp [checkTablesFrom, pure, Except.pure, hnone, eq_comm]
  | cons table tables ih =>
    simp only [checkTablesFrom, bind_eq_ok, checkTable_eq_ok, List.forall_mem_cons]
    cases hcte : resolvesToCte table (loweredName table) with
    | true =>
      have hnames : uncoveredNames (table :: tables) = uncoveredNames tables := by
        simp [uncoveredNames, hcte]
      simp only [if_true, hnames, and_assoc]
      constructor
      · rintro ⟨_, hadm, rfl, hrest⟩
        exact ⟨hadm, ih.mp hrest⟩
      · rintro ⟨hadm, hrest⟩
        exact ⟨none, hadm, rfl, ih.mpr hrest⟩
    | false =>
      have hnames : uncoveredNames (table :: tables) =
          insert (loweredName table) (uncoveredNames tables) := by
        simp [uncoveredNames, hcte]
      have hunion : referenced ∪ insert (loweredName table) (uncoveredNames tables) =
          insert (loweredName table) referenced ∪ uncoveredNames tables := by
        rw [Finset.union_insert, Finset.insert_union]
      simp only [Bool.false_eq_true, if_false, hnames, hunion, and_assoc]
      constructor
      · rintro ⟨_, hadm, rfl, hrest⟩
        exact ⟨hadm, ih.mp hrest⟩
      · rintro ⟨hadm, hrest⟩
        exact ⟨some (loweredName table), hadm, rfl, ih.mpr hrest⟩

/-- `_check_tables` accepts when every table is admitted, and then returns the names of the tables
that no enclosing CTE has the name of. -/
theorem checkTables_eq_ok {ast : Expression} {allowedTables referenced : Finset PyStr} :
    checkTables ast allowedTables = .ok referenced ↔
      (∀ t ∈ ast.findAll Cls.isTable, TableAdmitted (allowedTables.image lower) t) ∧
        referenced = uncoveredNames (ast.findAll Cls.isTable) := by
  unfold checkTables
  rw [checkTablesFrom_eq_ok, Finset.empty_union]

/-! ## Functions and keywords -/

/-- The name `_check_no_denied_functions` looks a function up under, before lowering: `name` for an
`Anonymous`, `sql_name()` for a typed class. -/
def Cls.funcName : Cls → PyStr
  | .count => lit "COUNT"
  | .generateSeries => lit "GENERATE_SERIES"
  | .tableFunc name _ | .func name | .anonymous name => name
  | _ => []

/-- The body of the loop of `_check_no_denied_functions`. -/
def checkFunc (func : ExprLoc) : Except QueryRejectedError Unit := do
  raiseIf (func.cls = .generateSeries ∨ func.cls.isUdtf) ⟨.disallowedConstruct,
    lit "Set-returning / table functions (e.g. generate_series, " ++
      lit "unnest) are not supported on the MCP surface; query a " ++
      lit "whitelisted table instead."⟩
  let name := lower func.cls.funcName
  if name = [] then
    return ()
  raiseIf (name ∈ deniedSrfFunctions) ⟨.disallowedConstruct,
    lit "Set-returning function '" ++ name ++ lit "' is not supported on the MCP " ++
      lit "surface; query a whitelisted table instead."⟩
  raiseIf (name ∈ deniedFunctionsExact) ⟨.disallowedFunction,
    lit "Function '" ++ name ++ lit "' is on the deny list"⟩
  forM deniedFunctionsPrefix fun pre =>
    raiseIf (startsWith pre name) ⟨.disallowedFunction,
      lit "Function '" ++ name ++ lit "' (prefix '" ++ pre ++ lit "*') is on the deny list"⟩

/-- `_check_no_denied_functions`. -/
def checkNoDeniedFunctions (ast : Expression) : Except QueryRejectedError Unit :=
  forM (ast.findAll Cls.isFunc) checkFunc

/-- Whether a column is written without a table qualifier. -/
def Cls.isUnqualified : Cls → Bool
  | .column qualifier _ => qualifier.isNone
  | _ => false

/-- `column.name`: a column over a `Star` is named by it. -/
def Cls.columnName : Cls → PyStr
  | .column _ (some name) => name.this
  | .column _ none => lit "*"
  | _ => []

/-- `_check_no_bare_keyword_columns`. -/
def checkNoBareKeywordColumns (ast : Expression) : Except QueryRejectedError Unit :=
  forM (ast.findAll Cls.isColumn) fun col =>
    let name := lower col.cls.columnName
    raiseIf (col.cls.isUnqualified ∧ name ∈ deniedBareKeywords) ⟨.disallowedFunction,
      lit "Built-in '" ++ name ++ lit "' leaks server identity; the " ++
        lit "function-deny-list rejects both bare and parenthesised forms."⟩

/-! ## Whole rows -/

/-- The first `Count` or `Select` met when walking up from a node. -/
def starOwner (star : ExprLoc) : Option ExprLoc :=
  star.ancestors.find? fun (cur : ExprLoc) => cur.cls.isCount || cur.cls.isSelect

/-- The message of `_check_no_select_star` for a refused star. -/
def starMessage (star : ExprLoc) : PyStr :=
  match star.ancestors.head?.map ExprLoc.cls with
  | some (.column table _) =>
    let name := if identText table = [] then lit "?" else identText table
    lit "Qualified '" ++ name ++ lit ".*' is rejected; enumerate " ++ lit "columns explicitly"
  | _ => lit "Bare SELECT * is rejected; enumerate columns explicitly"

/-- `_check_no_select_star`. -/
def checkNoSelectStar (ast : Expression) : Except QueryRejectedError Unit :=
  forM (ast.findAll Cls.isStar) fun star =>
    raiseIf ((starOwner star).any (·.cls.isSelect)) ⟨.selectStar, starMessage star⟩

/-- The row aliases `_check_no_whole_row_refs` knows: those of `exp.Table` nodes. -/
def rowAliases (ast : Expression) : Finset PyStr :=
  (((ast.findAll Cls.isTable).map fun table => lower table.cls.aliasOrName).filter
    (· ≠ [])).toFinset

/-- `_check_no_whole_row_refs`. -/
def checkNoWholeRowRefs (ast : Expression) : Except QueryRejectedError Unit :=
  let aliases := rowAliases ast
  if aliases = ∅ then
    .ok ()
  else
    forM (ast.findAll Cls.isSelect) fun sel =>
      forM sel.projections fun projection =>
        forM (projection.findAll Cls.isColumn) fun col =>
          let name := lower col.cls.columnName
          raiseIf (col.cls.isUnqualified ∧ name ∈ aliases) ⟨.selectStar,
            lit "Bare reference to row alias '" ++ name ++ lit "' returns " ++
              lit "the whole row; enumerate columns explicitly"⟩

end McpSql
