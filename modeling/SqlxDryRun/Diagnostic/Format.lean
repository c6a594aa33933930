import SqlxDryRun.Diagnostic
import SqlxDryRun.Json.Decoder

/-!
# Diagnostics in JSON

The layouts by which positions, ranges and diagnostics are read, and their written forms.
-/

namespace SqlxDryRun

open Json (Value Layout)

/-- The fields of a position. -/
def Position.layout : Layout Position where
  fields := [
    .needed "line" Json.uint32 fun p n => { p with line := n },
    .needed "column" Json.uint32 fun p n => { p with column := n }]
  default := default
  mayBeShort := false

/-- The written form of a position. -/
def Position.toJson (p : Position) : Value :=
  .ofFields [("line", .ofUInt32 p.line), ("column", .ofUInt32 p.column)]

/-- The fields of a range. -/
def Range.layout : Layout Range where
  fields := [
    .needed "start" Position.layout.decode fun r p => { r with start := p },
    .needed "end" Position.layout.decode fun r p => { r with stop := p }]
  default := default
  mayBeShort := false

/-- The written form of a range. -/
def Range.toJson (r : Range) : Value :=
  .ofFields [("start", r.start.toJson), ("end", r.stop.toJson)]

/-- The fields of a diagnostic. Only the suggestion may be left out. -/
def Diagnostic.layout : Layout Diagnostic where
  fields := [
    .needed "code" (Json.tag DiagnosticCode.ofName?) fun d c => { d with code := c },
    .needed "severity" (Json.tag Severity.ofName?) fun d s => { d with severity := s },
    .needed "message" Json.string fun d s => { d with message := s },
    .needed "range" Range.layout.decode fun d r => { d with range := r },
    .optional "suggestion" (Json.optional Json.string) fun d s => { d with suggestion := s }]
  default := ⟨.queryError, .error, "", default, none⟩
  mayBeShort := false

/-- The written form of a diagnostic. -/
def Diagnostic.toJson (d : Diagnostic) : Value :=
  .ofFields [
    ("code", .string d.code.name),
    ("severity", .string d.severity.name),
    ("message", .string d.message),
    ("range", d.range.toJson),
    ("suggestion", .ofOption .string d.suggestion)]

end SqlxDryRun
