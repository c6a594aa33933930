import SqlxDryRun.Duration
import SqlxDryRun.Validation.Bytes
import SqlxDryRun.Validation.Reply
import SqlxDryRun.Text.Blank

/-!
# The validation service

What can go wrong between the library and the service, and a service whose replies are known in
advance.
-/

namespace SqlxDryRun.Validation

/-- Why a query got no reply. -/
inductive Failure where
  | authentication (detail : String)
  | permission (detail : String)
  | invalidResponse (detail : String)
  | network (detail : String)
  | configuration (detail : String)
  | timedOut (limit : Duration)
deriving DecidableEq, Repr, Inhabited

namespace Failure

/-- The text of a failure. -/
def message : Failure → String
  | authentication detail => "Authentication failed: " ++ detail
  | permission detail => "Permission denied: " ++ detail
  | invalidResponse detail => "Invalid response: " ++ detail
  | network detail => "Network error: " ++ detail
  | configuration detail => "Configuration error: " ++ detail
  | timedOut limit => "Dry run did not finish within " ++ limit.text

end Failure

/-- The byte count of a response, which the service writes as text and leaves out if it is zero. -/
def readTotalBytes : Option String → Except Failure UInt64
  | none => .ok 0
  | some raw =>
    match Text.readNatural (UInt64.size - 1) (Text.trimChars raw.toList) with
    | .ok n => .ok (UInt64.ofNat n)
    | .error e =>
      .error (.invalidResponse ("totalBytesProcessed '" ++ raw ++ "': " ++ e.message))

/-- A service with prepared replies. It keeps the queries that it was asked about. -/
structure Service where
  replies : List (String × Reply)
  otherwise : Reply
  failure : Option Failure
  latency : Duration
  calls : List String
deriving Inhabited

namespace Service

/-- A service that finds every query valid and free. -/
def quiet : Service := ⟨[], .valid 0, none, ⟨0⟩, []⟩

/-- The name of a service with prepared replies. -/
def name : String := "Mock"

/-- The service with a reply prepared for a query, in the stead of an earlier one. -/
def prepare (s : Service) (query : String) (reply : Reply) : Service :=
  { s with replies := (query, reply) :: s.replies }

/-- The service after it was asked about a query. -/
def note (s : Service) (query : String) : Service :=
  { s with calls := s.calls ++ [query] }

/-- The answer to a query: the failure if there is one, else the prepared reply. -/
def answer (s : Service) (query : String) : Except Failure Reply :=
  match s.failure with
  | some f => .error f
  | none => .ok ((s.replies.lookup query).getD s.otherwise)

end Service

end SqlxDryRun.Validation
