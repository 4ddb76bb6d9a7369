import McpSql.Parser.Checks
import McpSql.Python.Int

/-!
# `parse_and_validate`

The entry point of `parser.py`, over the three operations of sqlglot it uses, and the readers of the
root `LIMIT`.
-/

namespace McpSql

open Python PyStr Located Raising

/-- The operations of sqlglot, each with the ways it may raise. -/
structure Sqlglot where
  /-- `sqlglot.parse(raw_sql, dialect="postgres")`. -/
  parse : PyStr → Except PyExc (List (Option Expression))
  /-- `ast.sql(dialect="postgres", normalize=…)`. -/
  sql : Expression → Bool → Except PyExc PyStr
  /-- `ast.limit(n)`. -/
  limit : Expression → ℤ → Except PyExc Expression

/-- sqlglot on one input: it parses to `ast`, which is written `text`. -/
def Sqlglot.on (ast : Expression) (text : PyStr) : Sqlglot where
  parse _ := .ok [some ast]
  sql _ _ := .ok text
  limit ast _ := .ok ast

/-- `parser.ParsedQuery`. -/
structure ParsedQuery where
  ast : Expression
  normalizedSql : PyStr
  referencedTables : Finset PyStr

section ParseAndValidate

variable [UnicodeDatabase]

/-- The checks `parse_and_validate` runs on the one statement, in its order. -/
def checkStatement (ast : Expression) (allowedTables : Finset PyStr) (banSelectStar : Bool) :
    Except QueryRejectedError (Finset PyStr) := do
  checkCtesReadOnly ast
  checkNoRecursiveCte ast
  checkNoSelectInto ast
  checkNoOffset ast
  checkNoFetch ast
  checkNoLockingReads ast
  let referencedTables ← checkTables ast allowedTables
  checkNoDeniedFunctions ast
  checkNoBareKeywordColumns ast
  if banSelectStar then
    checkNoSelectStar ast
    checkNoWholeRowRefs ast
  return referencedTables

/-- The call of `sqlglot.parse` with its two handlers. -/
def parseStatements (sqlglot : Sqlglot) (rawSql : PyStr) :
    Except PyExc (List (Option Expression)) :=
  match sqlglot.parse rawSql with
  | .error (.parseError text) => .error (.queryRejected ⟨.parseError, text⟩)
  | .error (.recursionError _) =>
    .error (.queryRejected ⟨.parseError, lit "SQL nesting is too deep to parse"⟩)
  | other => other

/-- The call of `ast.sql` with its handler. -/
def normalizeSql (sqlglot : Sqlglot) (ast : Expression) : Except PyExc PyStr :=
  match sqlglot.sql ast true with
  | .error (.recursionError _) =>
    .error (.queryRejected ⟨.parseError, lit "SQL nesting is too deep to serialize"⟩)
  | other => other

/-- The statements that remain once `None` and `Semicolon` artefacts are dropped. -/
def realStatements (parsed : List (Option Expression)) : List Expression :=
  (parsed.filterMap id).filter (·.label.cls ≠ .semicolon)

/-- The one statement of the input, with a query at its root. -/
def singleQuery (statements : List Expression) : Except QueryRejectedError Expression :=
  match statements with
  | [] => .error ⟨.parseError, lit "Empty SQL input"⟩
  | [ast] =>
    if ast.label.cls.isQuery then .ok ast
    else .error ⟨.nonSelectRoot,
      lit "Root is " ++ ast.label.cls.className ++ lit ", not a SELECT-shaped query"⟩
  | _ => .error ⟨.multiStatement,
      lit "Got " ++ ofNat statements.length ++ lit " statements; only one is allowed"⟩

/-- `parse_and_validate`. -/
def parseAndValidate (sqlglot : Sqlglot) (rawSql : PyStr) (allowedTables : Finset PyStr)
    (banSelectStar : Bool) : Except PyExc ParsedQuery := do
  let parsed ← parseStatements sqlglot rawSql
  let ast ← (singleQuery (realStatements parsed)).mapError PyExc.queryRejected
  let referencedTables ←
    (checkStatement ast allowedTables banSelectStar).mapError PyExc.queryRejected
  let normalizedSql ← normalizeSql sqlglot ast
  return ⟨ast, normalizedSql, referencedTables⟩

/-- `inject_limit`. -/
def injectLimit (sqlglot : Sqlglot) (ast : Expression) (n : ℤ) : Except PyExc Expression :=
  sqlglot.limit ast n

/-- `extract_limit`. -/
def extractLimit (ast : Expression) : Option ℤ :=
  let root : ExprLoc := Loc.root ast
  let body := if root.cls.isWith then root.arg .this else some root
  match (body.bind (ExprLoc.arg · .limit)).bind (ExprLoc.arg · .expression) with
  | some expr =>
    match expr.cls with
    | .literal this _ => pyInt this
    | _ => none
  | none => none

/-! ## What acceptance means -/

/-- What is known of a statement all checks returned on. -/
structure Accepted (ast : Expression) (allowedTables referencedTables : Finset PyStr)
    (banSelectStar : Bool) : Prop where
  ctesReadOnly : checkCtesReadOnly ast = .ok ()
  noRecursiveCte : checkNoRecursiveCte ast = .ok ()
  noSelectInto : checkNoSelectInto ast = .ok ()
  noOffset : checkNoOffset ast = .ok ()
  noFetch : checkNoFetch ast = .ok ()
  noLockingReads : checkNoLockingReads ast = .ok ()
  tables : checkTables ast allowedTables = .ok referencedTables
  noDeniedFunctions : checkNoDeniedFunctions ast = .ok ()
  noBareKeywordColumns : checkNoBareKeywordColumns ast = .ok ()
  noSelectStar : banSelectStar = true → checkNoSelectStar ast = .ok ()
  noWholeRowRefs : banSelectStar = true → checkNoWholeRowRefs ast = .ok ()

theorem accepted_of_checkStatement {ast : Expression} {allowedTables referenced : Finset PyStr}
    {banSelectStar : Bool} (h : checkStatement ast allowedTables banSelectStar = .ok referenced) :
    Accepted ast allowedTables referenced banSelectStar := by
  unfold checkStatement at h
  obtain ⟨⟨⟩, h1, h⟩ := bind_eq_ok.mp h
  obtain ⟨⟨⟩, h2, h⟩ := bind_eq_ok.mp h
  obtain ⟨⟨⟩, h3, h⟩ := bind_eq_ok.mp h
  obtain ⟨⟨⟩, h4, h⟩ := bind_eq_ok.mp h
  obtain ⟨⟨⟩, h5, h⟩ := bind_eq_ok.mp h
  obtain ⟨⟨⟩, h6, h⟩ := bind_eq_ok.mp h
  obtain ⟨tables, h7, h⟩ := bind_eq_ok.mp h
  obtain ⟨⟨⟩, h8, h⟩ := bind_eq_ok.mp h
  obtain ⟨⟨⟩, h9, h⟩ := bind_eq_ok.mp h
  cases banSelectStar with
  | false =>
    obtain rfl : tables = referenced := by simpa [pure, Except.pure] using h
    exact ⟨h1, h2, h3, h4, h5, h6, h7, h8, h9, by simp, by simp⟩
  | true =>
    obtain ⟨⟨⟩, h10, h⟩ := bind_eq_ok.mp h
    obtain ⟨⟨⟩, h11, h⟩ := bind_eq_ok.mp h
    obtain rfl : tables = referenced := by simpa [pure, Except.pure] using h
    exact ⟨h1, h2, h3, h4, h5, h6, h7, h8, h9, fun _ => h10, fun _ => h11⟩

/-- The checks return the names that the loop over tables records exactly when each of them
returns. -/
theorem checkStatement_eq_ok {ast : Expression} {allowedTables referenced : Finset PyStr}
    {banSelectStar : Bool} :
    checkStatement ast allowedTables banSelectStar = .ok referenced ↔
      Accepted ast allowedTables referenced banSelectStar := by
  refine ⟨accepted_of_checkStatement, fun h => ?_⟩
  unfold checkStatement
  rw [h.ctesReadOnly, h.noRecursiveCte, h.noSelectInto, h.noOffset, h.noFetch, h.noLockingReads,
    h.tables, h.noDeniedFunctions, h.noBareKeywordColumns]
  simp only [ok_bind]
  cases banSelectStar with
  | false => rfl
  | true =>
    rw [h.noSelectStar rfl, h.noWholeRowRefs rfl]
    rfl

/-- The one statement `parse_and_validate` finds in the input. -/
def parseQuery (sqlglot : Sqlglot) (rawSql : PyStr) : Except PyExc Expression := do
  let parsed ← parseStatements sqlglot rawSql
  (singleQuery (realStatements parsed)).mapError PyExc.queryRejected

/-- What a returned result is: the statement of the input, the names its tables passed under, and
its normalized text. -/
theorem parseAndValidate_eq_ok {sqlglot : Sqlglot} {rawSql : PyStr}
    {allowedTables : Finset PyStr} {banSelectStar : Bool} {parsed : ParsedQuery} :
    parseAndValidate sqlglot rawSql allowedTables banSelectStar = .ok parsed ↔
      parseQuery sqlglot rawSql = .ok parsed.ast ∧
        Accepted parsed.ast allowedTables parsed.referencedTables banSelectStar ∧
          normalizeSql sqlglot parsed.ast = .ok parsed.normalizedSql := by
  unfold parseAndValidate parseQuery
  simp only [bind_eq_ok, mapError_eq_ok, checkStatement_eq_ok, pure, Except.pure, Except.ok.injEq]
  constructor
  · rintro ⟨statements, hparse, ast, hsingle, tables, hchecks, sql, hsql, rfl⟩
    exact ⟨⟨statements, hparse, hsingle⟩, hchecks, hsql⟩
  · rintro ⟨⟨statements, hparse, hsingle⟩, hchecks, hsql⟩
    exact ⟨statements, hparse, parsed.ast, hsingle, parsed.referencedTables, hchecks,
      parsed.normalizedSql, hsql, rfl⟩

omit [UnicodeDatabase] in
/-- The one statement is a query. -/
theorem isQuery_of_singleQuery {statements : List Expression} {ast : Expression}
    (h : singleQuery statements = .ok ast) : ast.label.cls.isQuery = true := by
  unfold singleQuery at h
  split at h
  · simp at h
  · split at h
    · next hroot =>
        obtain rfl := Except.ok.inj h
        exact hroot
    · simp at h
  · simp at h

/-- An accepted statement is a query on which every check returned. -/
theorem accepted_of_parseAndValidate {sqlglot : Sqlglot} {rawSql : PyStr}
    {allowedTables : Finset PyStr} {banSelectStar : Bool} {parsed : ParsedQuery}
    (h : parseAndValidate sqlglot rawSql allowedTables banSelectStar = .ok parsed) :
    Accepted parsed.ast allowedTables parsed.referencedTables banSelectStar ∧
      parsed.ast.label.cls.isQuery = true := by
  obtain ⟨hread, haccepted, -⟩ := parseAndValidate_eq_ok.mp h
  obtain ⟨statements, -, hsingle⟩ := bind_eq_ok.mp hread
  exact ⟨haccepted, isQuery_of_singleQuery (mapError_eq_ok.mp hsingle)⟩

end ParseAndValidate

end McpSql
