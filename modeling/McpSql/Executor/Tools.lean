import McpSql.Auth
import McpSql.Executor.RunQuery

/-!
# The metadata tools

`list_tables` and `describe_table` (`views/mcp_endpoint.py`), and the values the tools of a request
are closed over.
-/

namespace McpSql

open Python PyStr Effect

/-- The principal `mcp_endpoint` closes the tools of a request over. -/
def endpointPrincipal (request : McpRequest) (passed : Authenticated) : Principal where
  user := passed.user
  profile := passed.mcpProfile
  tokenId := passed.token.pk
  clientIp := request.remoteAddr
  clientRedirect := passed.token.application.redirectUris

/-- `schemas.ColumnInfo`. -/
structure ColumnInfo where
  type : PyStr
  null : Bool
  primaryKey : Bool
  deriving DecidableEq, Repr

/-- What `describe_table` returns: `TableDescription` or `ToolError`. -/
inductive Description where
  | columns (columns : List (PyStr × ColumnInfo))
  | error (text : PyStr)
  deriving DecidableEq, Repr

/-- `list_tables`. -/
def listTables (env : ExecutorEnv) (p : Principal) : Py (List PyStr) := do
  let tables ← call (declaredTables env p.profile)
  auditToolCall env p .listTables []
  return (tables.map Prod.snd).mergeSort PyStr.le

/-- `describe_table`; `fields` are the fields of a model. -/
def describeTable [UnicodeDatabase] (env : ExecutorEnv)
    (fields : PyStr → List (PyStr × ColumnInfo)) (p : Principal) (name : PyStr) :
    Py Description := do
  let tables ← call (declaredTables env p.profile)
  auditToolCall env p .describeTable
    (lit "describe_table(" ++ PyStr.repr name ++ lit ")")
  match tables.find? (·.2 = name) with
  | some (label, _) => return .columns (fields label)
  | none => return .error (lit "Table '" ++ name ++ lit "' is not on the MCP whitelist.")

/-- A call of one of the tools of `_build_mcp_server`. -/
inductive ToolCall where
  | runQuery (rawSql : PyStr) (limit : Option ℤ)
  | listTables
  | describeTable (name : PyStr)
  deriving DecidableEq, Repr

/-- The query a principal calls `run_query` with. -/
def Principal.query (p : Principal) (rawSql : PyStr) (limit : Option ℤ) : QueryCall :=
  { p with rawSql := rawSql, limit := limit }

/-- Run a tool; what it returns is sent by the server. -/
def callTool [UnicodeDatabase] (env : ExecutorEnv) (fields : PyStr → List (PyStr × ColumnInfo))
    (p : Principal) : ToolCall → Py Unit
  | .runQuery rawSql limit => discard (runQuery env (p.query rawSql limit))
  | .listTables => discard (listTables env p)
  | .describeTable name => discard (describeTable env fields p name)

/-- `mcp_endpoint` for a request with a tool call: nothing runs without authentication. -/
def mcpEndpoint [UnicodeDatabase] (env : ExecutorEnv) (auth : AuthEnv)
    (fields : PyStr → List (PyStr × ColumnInfo)) (request : McpRequest) (tool : ToolCall) :
    Py Unit := do
  match ← authenticate env.settings env.faults auth request with
  | none => return ()
  | some passed => callTool env fields (endpointPrincipal request passed) tool

end McpSql
