import SqlxDryRun.Position
import SqlxDryRun.Suggestion

/-!
# Diagnostics

What a dry run reports about a place in a document.
-/

namespace SqlxDryRun

/-- How serious a diagnostic is. -/
inductive Severity where
  | info
  | warn
  | error
deriving DecidableEq, Repr, Inhabited

namespace Severity

/-- The written name of a severity. -/
def name : Severity → String
  | info => "info"
  | warn => "warn"
  | error => "error"

/-- The severity of a written name. -/
def ofName? : String → Option Severity
  | "info" => some info
  | "warn" => some warn
  | "error" => some error
  | _ => none

end Severity

/-- The kinds of diagnostics. A kind keeps its name for good, since editors store it. -/
inductive DiagnosticCode where
  | queryError
deriving DecidableEq, Repr, Inhabited

namespace DiagnosticCode

/-- The stable name of a kind. -/
def name : DiagnosticCode → String
  | queryError => "DRY_RUN_QUERY_ERROR"

/-- The kind of a stable name. -/
def ofName? (text : String) : Option DiagnosticCode :=
  if text == queryError.name then some queryError else none

end DiagnosticCode

/-- A message about a range of a document, with a replacement for it if there is one. -/
structure Diagnostic where
  code : DiagnosticCode
  severity : Severity
  message : String
  range : Range
  suggestion : Option String
deriving DecidableEq, Repr, Inhabited

namespace Diagnostic

/-- The diagnostic for a query that the validation service refused. -/
def queryError (position : Position) (width : UInt32) (message : String) : Diagnostic where
  code := .queryError
  severity := .error
  message := message
  range := Range.onLine position width
  suggestion := Suggestion.ofMessage? message

end Diagnostic

end SqlxDryRun
