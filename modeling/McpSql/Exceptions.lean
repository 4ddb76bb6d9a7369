import McpSql.Schemas

/-!
# Exceptions

The exception classes the package raises, catches or lets through, with the data that is read
from them.  A class no handler of the package names is `otherException` or, when it does not derive
from `Exception`, `baseException`.
-/

namespace McpSql

open Python PyStr

/-- `parser.QueryRejectedError`. -/
structure QueryRejectedError where
  reason : OutcomeReason
  detail : PyStr
  deriving DecidableEq, Repr

/-- A raised exception. -/
inductive PyExc where
  | queryRejected (exc : QueryRejectedError)
  | executorMisconfigured (text : PyStr)
  /-- `rest_framework.exceptions.AuthenticationFailed`. -/
  | authenticationFailed (detail : PyStr)
  /-- `django.core.exceptions.PermissionDenied`. -/
  | permissionDenied (text : PyStr)
  /-- `django.core.exceptions.ImproperlyConfigured`. -/
  | improperlyConfigured (text : PyStr)
  /-- `grants.GrantsReconcileError`. -/
  | grantsReconcile (text : PyStr)
  /-- `auth.PayloadTooLarge`. -/
  | payloadTooLarge (detail : PyStr)
  /-- `sqlglot.errors.ParseError`. -/
  | parseError (text : PyStr)
  /-- `sqlglot.errors.TokenError`, a sibling of `ParseError`. -/
  | tokenError (text : PyStr)
  | recursionError (text : PyStr)
  | lookupError (text : PyStr)
  | importError (text : PyStr)
  | typeError (text : PyStr)
  | valueError (text : PyStr)
  /-- `UnicodeError`, a subclass of `ValueError`. -/
  | unicodeError (text : PyStr)
  /-- `json.JSONDecodeError`, a subclass of `ValueError`. -/
  | jsonDecodeError (text : PyStr)
  /-- The builtin `ConnectionError`. -/
  | connectionError (text : PyStr)
  /-- `django.db.DatabaseError` with the SQLSTATE `pgcode` finds on it. -/
  | databaseError (text : PyStr) (sqlstate : Option PyStr)
  /-- Any other subclass of `Exception`; its `__str__` may raise, and then has no text. -/
  | otherException (cls : PyStr) (text : Option PyStr)
  /-- An exception outside `Exception`, such as `KeyboardInterrupt`. -/
  | baseException (cls : PyStr) (text : Option PyStr)
  deriving DecidableEq, Repr

namespace PyExc

/-- `isinstance(exc, Exception)`. -/
def isException : PyExc → Bool
  | baseException _ _ => false
  | _ => true

/-- `isinstance(exc, ImproperlyConfigured)`. -/
def isImproperlyConfigured : PyExc → Bool
  | improperlyConfigured _ => true
  | _ => false

/-- `isinstance(exc, ImportError)`. -/
def isImportError : PyExc → Bool
  | importError _ => true
  | _ => false

theorem eq_importError {e : PyExc} (h : e.isImportError = true) : ∃ text, e = .importError text := by
  unfold isImportError at h
  cases e with
  | importError text => exact ⟨text, rfl⟩
  | _ => simp at h

/-- `isinstance(exc, QueryRejectedError)`. -/
def isQueryRejected : PyExc → Bool
  | queryRejected _ => true
  | _ => false

/-- `isinstance(exc, sqlglot.errors.ParseError)`. -/
def isParseError : PyExc → Bool
  | parseError _ => true
  | _ => false

/-- `isinstance(exc, RecursionError)`. -/
def isRecursionError : PyExc → Bool
  | recursionError _ => true
  | _ => false

/-- `isinstance(exc, ValueError)`. -/
def isValueError : PyExc → Bool
  | valueError _ | unicodeError _ | jsonDecodeError _ => true
  | _ => false

/-- `isinstance(exc, ConnectionError)` for the builtin class. -/
def isConnectionError : PyExc → Bool
  | connectionError _ => true
  | _ => false

/-- `isinstance(exc, django.db.DatabaseError)`. -/
def isDatabaseError : PyExc → Bool
  | databaseError _ _ => true
  | _ => false

/-- `str(exc)`, which runs the `__str__` of a foreign class. -/
def str : PyExc → Except PyExc PyStr
  | queryRejected exc => .ok exc.detail
  | executorMisconfigured text | authenticationFailed text | permissionDenied text
  | improperlyConfigured text | grantsReconcile text | payloadTooLarge text | parseError text
  | tokenError text | recursionError text | lookupError text | importError text | typeError text
  | valueError text | unicodeError text | jsonDecodeError text | connectionError text
  | databaseError text _ => .ok text
  | otherException cls text | baseException cls text =>
    match text with
    | some text => .ok text
    | none => .error (otherException cls none)

end PyExc

end McpSql
