import SqlxDryRun.Settings
import SqlxDryRun.Validation.Service

/-!
# Connecting to the validation service

This library has no access to the network, so connecting to the live service always fails. What is
wrong with the settings is told first.
-/

namespace SqlxDryRun.ServiceSettings

open Validation (Failure)

/-- Why the live service cannot be used with some settings. -/
def connectFailure (s : ServiceSettings) (env : Environment) : Failure :=
  match s.resolvedProject env with
  | none =>
    .configuration "No billing project: set dry_run.project_id or GOOGLE_CLOUD_PROJECT"
  | some _ =>
    .configuration "BigQuery support not compiled. Rebuild with: cargo build --features bigquery"

end SqlxDryRun.ServiceSettings
