import SqlxDryRun.Validation.Location

/-!
# Replies of the validation service

A reply says whether the query has an error, and where, and how many bytes it would process.
-/

namespace SqlxDryRun.Validation

/-- The error of a query, or the absence of one. -/
structure QueryError where
  hasError : Bool
  line : UInt32
  column : UInt32
  message : String
deriving DecidableEq, Repr, Inhabited

/-- The absence of an error. -/
def QueryError.absent : QueryError := ⟨false, 0, 0, ""⟩

/-- What validating a query has cost out. -/
structure Statistics where
  totalBytes : UInt64
deriving DecidableEq, Repr, Inhabited

/-- The answer to one query. -/
structure Reply where
  error : QueryError
  statistics : Statistics
deriving DecidableEq, Repr, Inhabited

namespace Reply

/-- The reply to a valid query. -/
def valid (bytes : UInt64) : Reply :=
  ⟨.absent, ⟨bytes⟩⟩

/-- The reply to a query with an error at a known place. -/
def refused (line column : UInt32) (message : String) : Reply :=
  ⟨⟨true, line, column, message⟩, ⟨0⟩⟩

/-- The reply to a query with an error whose place stands in its message; without one there, the
error is at line one, column one. -/
def ofMessage (message : String) : Reply :=
  let (line, column) := (Location.ofMessage? message).getD (1, 1)
  refused line column message

end Reply

end SqlxDryRun.Validation
