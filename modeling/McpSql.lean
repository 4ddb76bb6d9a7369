import McpSql.Python.UrlParse
import McpSql.Python.Json
import McpSql.Python.JsonText
import McpSql.Foundations.GuardedRun
import McpSql.Throttle
import McpSql.Parser.Checks
import McpSql.Parser.ParseAndValidate
import McpSql.Parser.Scope
import McpSql.Parser.FromItems
import McpSql.Parser.WholeRow
import McpSql.Executor.Cells
import McpSql.Executor.Session
import McpSql.Executor.Audit
import McpSql.Executor.RunQuery
import McpSql.Executor.Ending
import McpSql.Registration.Redirects
import McpSql.Registration.Race
import McpSql.Auth.Outage
import McpSql.Auth.Logout
import McpSql.Executor.AuditOnce
import McpSql.Executor.Limits
import McpSql.Executor.Tools
import McpSql.Executor.AuditStorable
import McpSql.Executor.AuditStored
import McpSql.Executor.CellCap
import McpSql.Auth.Issuance
import McpSql.Executor.AuditMirror
import McpSql.Python.Base64
import McpSql.Registration.Names
import McpSql.Foundations.SharedCount
import McpSql.Executor.CountOnce
import McpSql.Foundations.KeyedLoop
import McpSql.Profiles.Grants
import McpSql.Profiles.Reconcile
import McpSql.Validation
import McpSql.Profiles.Provisioning
import McpSql.Executor.Drift
import McpSql.Profiles.RoleNames
import McpSql.Foundations.DotSegments
import McpSql.Python.Unquote
import McpSql.Auth.CloudRedirects
import McpSql.Postgres.Session
import McpSql.Startup.Objects
import McpSql.Startup.Checks
import McpSql.Startup.Validate
import McpSql.Startup.TypedProfiles
import McpSql.Startup.Usable
import McpSql.Startup.LivePrefix
import McpSql.Python.Codecs
import McpSql.Python.JsonParse
import McpSql.Python.JsonScan
import McpSql.Registration.Exact
import McpSql.Registration.Silent
import McpSql.Executor.PayloadCap
import McpSql.Python.JsonLength
import McpSql.Python.JsonRoundTrip
import McpSql.Foundations.Framing
import McpSql.Executor.Fencing
import McpSql.Auth.SilentBlock
import McpSql.Parser.VisibleCtes
import McpSql.Parser.Whitelist
import McpSql.Executor.SessionGuards
import McpSql.Foundations.Journal
import McpSql.Profiles.CohortAlerts
import McpSql.Profiles.CohortHistory
import McpSql.Server.Visits
import McpSql.Server.AuditTrail
import McpSql.Foundations.Memo
import McpSql.Foundations.OnceCell
import McpSql.Server.AsgiLoop
import McpSql.Server.Reads
import McpSql.Startup.Accessor
import McpSql.Auth.CodeDelivery
import McpSql.Postgres.Roles
import McpSql.Profiles.GrantsWatched
import McpSql.Executor.SmokeVerdict
import McpSql.Parser.Verdict
import McpSql.Foundations.Guest
import McpSql.Server.Bridge
import McpSql.Server.BridgedResponse
import McpSql.Foundations.Tally
import McpSql.Python.JsonWire
import McpSql.Server.Discovery
import McpSql.Server.UsageSummary
