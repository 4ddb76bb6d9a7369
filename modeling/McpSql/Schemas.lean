import McpSql.Python.Str

/-!
# Outcome vocabulary

The closed sets of outcome codes, the hints attached to them, and the result type of the
executor (`schemas.py`).
-/

namespace McpSql

open Python PyStr

/-- `schemas.AuthRejectionReason`: why a resolved user lost access. -/
inductive AuthRejectionReason where
  | badApplication
  | badScope
  | inactiveOrNonStaff
  | noMfa
  | noPerm
  | ambiguousProfile
  | noSession
  | sessionLogout
  deriving DecidableEq, Repr

/-- The stored value of a rejection reason. -/
def AuthRejectionReason.value : AuthRejectionReason → PyStr
  | badApplication => lit "bad_application"
  | badScope => lit "bad_scope"
  | inactiveOrNonStaff => lit "inactive_or_non_staff"
  | noMfa => lit "no_mfa"
  | noPerm => lit "no_perm"
  | ambiguousProfile => lit "ambiguous_profile"
  | noSession => lit "no_session"
  | sessionLogout => lit "session_logout"

/-- `schemas.OutcomeReason`: the codes of `MCPQueryLog.rejection_reason`. -/
inductive OutcomeReason where
  | parseError
  | multiStatement
  | nonSelectRoot
  | selectStar
  | disallowedTable
  | disallowedFunction
  | disallowedConstruct
  | systemSchema
  | writeableCte
  | selectInto
  | executionError
  | timeout
  | misconfigured
  deriving DecidableEq, Repr

/-- The stored value of an outcome code. -/
def OutcomeReason.value : OutcomeReason → PyStr
  | parseError => lit "parse_error"
  | multiStatement => lit "multi_statement"
  | nonSelectRoot => lit "non_select_root"
  | selectStar => lit "select_star"
  | disallowedTable => lit "disallowed_table"
  | disallowedFunction => lit "disallowed_function"
  | disallowedConstruct => lit "disallowed_construct"
  | systemSchema => lit "system_schema"
  | writeableCte => lit "writeable_cte"
  | selectInto => lit "select_into"
  | executionError => lit "execution_error"
  | timeout => lit "timeout"
  | misconfigured => lit "misconfigured"

/-- `schemas.ToolName`: the tool that produced an audit row. -/
inductive ToolName where
  | runQuery
  | listTables
  | describeTable
  deriving DecidableEq, Repr

/-- The stored value of a tool name. -/
def ToolName.value : ToolName → PyStr
  | runQuery => lit "run_query"
  | listTables => lit "list_tables"
  | describeTable => lit "describe_table"

/-- `schemas.HINTS`: the agent-facing hint of an outcome code. -/
def OutcomeReason.hint : OutcomeReason → PyStr
  | parseError => lit "SQL did not parse. Submit a single Postgres-dialect SELECT statement."
  | multiStatement => lit "Only one statement per query. Submit them separately."
  | nonSelectRoot =>
      lit "Only SELECT (or a read-only CTE wrapping a SELECT) is allowed. " ++
        lit "DDL, DML, EXPLAIN, CALL, DO, and SELECT INTO are rejected."
  | selectStar => lit "SELECT * is rejected. Enumerate the columns you need explicitly."
  | disallowedTable =>
      lit "Query references a table that is not on the MCP whitelist. " ++
        lit "Use `list_tables` to see what is reachable."
  | disallowedFunction =>
      lit "Query uses a denied function (e.g. pg_read_file, dblink_*, lo_*, " ++
        lit "copy, current_setting). Those bypass the read-only contract."
  | systemSchema =>
      lit "Catalogs (pg_catalog, information_schema, pg_*) are off limits. " ++
        lit "Use `list_tables` to see what is reachable."
  | writeableCte =>
      lit "CTEs must be read-only. INSERT/UPDATE/DELETE inside a WITH clause is " ++
        lit "rejected even when the outer statement is a SELECT."
  | selectInto => lit "SELECT INTO writes a new table. Use SELECT only."
  | disallowedConstruct =>
      lit "The SQL uses a construct that is not supported on the MCP surface. " ++
        lit "See `error` for the specific construct and the recommended alternative."
  | executionError =>
      lit "Postgres rejected the query at execution time. See `error` for detail."
  | timeout => lit "Statement exceeded the 5s timeout. Add filters or aggregate."
  | misconfigured =>
      lit "The MCP read-only surface is misconfigured server-side. This is an " ++
        lit "operator issue, not a query issue. Notify the operators; retrying " ++
        lit "will not help until they fix it."

/-- `schemas.HINTS["truncated"]`. -/
def truncatedHint : PyStr :=
  lit "Result truncated. Prefer aggregation (COUNT/GROUP BY/MAX/MIN) over " ++
    lit "pagination. For genuine result-set walking, use keyset pagination in " ++
    lit "your SQL: WHERE id > <last_seen_id> ORDER BY id LIMIT N. There is no " ++
    lit "OFFSET / FETCH / cursor / fetch_next; those are intentionally absent."

/-- A JSON-storable cell value.  A Python float is carried by its `repr`, the only thing the
package ever does with it. -/
inductive Cell where
  | none
  | bool (b : Bool)
  | int (n : ℤ)
  | float (repr : PyStr)
  | str (s : PyStr)
  deriving DecidableEq, Repr

/-- `schemas.QueryResult`, with the defaults of the dataclass. -/
structure QueryResult where
  columns : List PyStr := []
  rows : List (List Cell) := []
  rowCount : ℕ := 0
  truncated : Bool := false
  durationMs : ℕ := 0
  hint : PyStr := []
  rejectionReason : Option OutcomeReason := Option.none
  error : PyStr := []
  deriving DecidableEq, Repr

end McpSql
