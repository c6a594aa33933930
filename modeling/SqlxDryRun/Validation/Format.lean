import SqlxDryRun.Json.Decoder
import SqlxDryRun.Validation.Reply

/-!
# Replies in JSON

The layouts by which replies of the validation service are read, and their written forms. All fields
are needed.
-/

namespace SqlxDryRun.Validation

open Json (Value Layout)

/-- The fields of the error of a query. -/
def QueryError.layout : Layout QueryError where
  fields := [
    .needed "hasError" Json.bool fun e b => { e with hasError := b },
    .needed "lineNumber" Json.uint32 fun e n => { e with line := n },
    .needed "columnNumber" Json.uint32 fun e n => { e with column := n },
    .needed "message" Json.string fun e s => { e with message := s }]
  default := .absent
  mayBeShort := false

/-- The written form of the error of a query. -/
def QueryError.toJson (e : QueryError) : Value :=
  .ofFields [
    ("hasError", .bool e.hasError),
    ("lineNumber", .ofUInt32 e.line),
    ("columnNumber", .ofUInt32 e.column),
    ("message", .string e.message)]

/-- The fields of the statistics of a query. -/
def Statistics.layout : Layout Statistics where
  fields := [.needed "totalBytesProcessed" Json.uint64 fun s n => { s with totalBytes := n }]
  default := ⟨0⟩
  mayBeShort := false

/-- The written form of the statistics of a query. -/
def Statistics.toJson (s : Statistics) : Value :=
  .ofFields [("totalBytesProcessed", .ofInt s.totalBytes.toNat)]

/-- The fields of a reply. -/
def Reply.layout : Layout Reply where
  fields := [
    .needed "error" QueryError.layout.decode fun r e => { r with error := e },
    .needed "statistics" Statistics.layout.decode fun r s => { r with statistics := s }]
  default := .valid 0
  mayBeShort := false

/-- The written form of a reply. -/
def Reply.toJson (r : Reply) : Value :=
  .ofFields [("error", r.error.toJson), ("statistics", r.statistics.toJson)]

end SqlxDryRun.Validation
