import SqlxDryRun.Diagnostic
import SqlxDryRun.Json.Decoder
import SqlxDryRun.Uri.FilePath

/-!
# Remarks

A remark is a diagnostic as editors know it. Any tool may make remarks; the source tells which one
did. An editor sends remarks back when it asks for quick fixes, and all that it sent is given back
to it.

Main definitions:

* `Remark.ofDiagnostic`: a diagnostic of a dry run as a remark, with its suggestion in the data;
* `Remark.layout`, `Remark.toJson`: reading and writing remarks;
* `Remark.suggestion?`: the suggestion of a remark that a dry run made.
-/

namespace SqlxDryRun.Editor

open Json (Value Layout Decoder)

/-- A number or a text that identifies something. -/
inductive Mark where
  | number (n : Int)
  | text (s : String)
deriving DecidableEq, Repr, Inhabited

/-- A further place that a remark is about. -/
structure Related where
  uri : Uri
  range : Range
  message : String
deriving DecidableEq, Repr, Inhabited

/-- A remark about a range of a document. Severities and tags are numbers of the protocol. -/
structure Remark where
  range : Range
  severity : Option Int
  code : Option Mark
  documentation : Option Uri
  source : Option String
  message : String
  related : Option (List Related)
  tags : Option (List Int)
  data : Option Value
deriving Inhabited

/-- The source of the remarks that dry runs make. -/
def dryRunSource : String := "dataform"

/-! ## Reading -/

/-- A number or a text. -/
def mark : Decoder Mark
  | .string s => .ok (.text s)
  | v => (Json.int32 v).map .number

/-- A URI. -/
def uri : Decoder Uri := fun v => do
  match Uri.ofString? (← Json.string v) with
  | some u => .ok u
  | none => .error .mismatch

/-- The fields of a position of the protocol. -/
def positionLayout : Layout Position where
  fields := [
    .needed "line" Json.uint32 fun p n => { p with line := n },
    .needed "character" Json.uint32 fun p n => { p with column := n }]
  default := default
  mayBeShort := false

/-- The fields of a range of the protocol. -/
def rangeLayout : Layout Range where
  fields := [
    .needed "start" positionLayout.decode fun r p => { r with start := p },
    .needed "end" positionLayout.decode fun r p => { r with stop := p }]
  default := default
  mayBeShort := false

/-- The fields of a link to documentation. -/
def linkLayout : Layout Uri where
  fields := [.needed "href" uri fun _ u => u]
  default := default
  mayBeShort := false

/-- The fields of a location. -/
def locationLayout : Layout (Uri × Range) where
  fields := [
    .needed "uri" uri fun l u => (u, l.2),
    .needed "range" rangeLayout.decode fun l r => (l.1, r)]
  default := default
  mayBeShort := false

/-- The fields of a further place. -/
def Related.layout : Layout Related where
  fields := [
    .needed "location" locationLayout.decode fun r l => { r with uri := l.1, range := l.2 },
    .needed "message" Json.string fun r s => { r with message := s }]
  default := default
  mayBeShort := false

/-- The fields of a remark. Only its range and its message must be there. -/
def Remark.layout : Layout Remark where
  fields := [
    .needed "range" rangeLayout.decode fun r v => { r with range := v },
    .optional "severity" (Json.optional Json.int32) fun r v => { r with severity := v },
    .optional "code" (Json.optional mark) fun r v => { r with code := v },
    .optional "codeDescription" (Json.optional linkLayout.decode) fun r v =>
      { r with documentation := v },
    .optional "source" (Json.optional Json.string) fun r v => { r with source := v },
    .needed "message" Json.string fun r v => { r with message := v },
    .optional "relatedInformation" (Json.optional (Json.list Related.layout.decode)) fun r v =>
      { r with related := v },
    .optional "tags" (Json.optional (Json.list Json.int32)) fun r v => { r with tags := v },
    .optional "data" (Json.optional Json.any) fun r v => { r with data := v }]
  default := default
  mayBeShort := false

/-! ## Writing -/

/-- The written form of a position. -/
def positionJson (p : Position) : Value :=
  .ofFields [("line", .ofUInt32 p.line), ("character", .ofUInt32 p.column)]

/-- The written form of a range. -/
def rangeJson (r : Range) : Value :=
  .ofFields [("start", positionJson r.start), ("end", positionJson r.stop)]

/-- The written form of an integer. -/
def intJson (n : Int) : Value :=
  .ofInt n

/-- The written form of a number or a text. -/
def Mark.toJson : Mark → Value
  | number n => intJson n
  | text s => .string s

/-- The written form of a further place. -/
def Related.toJson (r : Related) : Value :=
  .ofFields [
    ("location", .ofFields [("uri", .string r.uri.toString), ("range", rangeJson r.range)]),
    ("message", .string r.message)]

/-- The field of a value, and none at all if the value is missing. -/
def fieldOf (key : String) (write : α → Value) (value : Option α) : List (String × Value) :=
  (value.map fun a => (key, write a)).toList

/-- The written form of a remark. What is missing is left out. -/
def Remark.toJson (r : Remark) : Value :=
  .ofFields (
    [("range", rangeJson r.range)] ++
    fieldOf "severity" intJson r.severity ++
    fieldOf "code" Mark.toJson r.code ++
    fieldOf "codeDescription" (fun u => .ofFields [("href", .string (Uri.toString u))])
      r.documentation ++
    fieldOf "source" .string r.source ++
    [("message", .string r.message)] ++
    fieldOf "relatedInformation" (fun rs => .ofItems (rs.map Related.toJson)) r.related ++
    fieldOf "tags" (fun ns => .ofItems (ns.map intJson)) r.tags ++
    fieldOf "data" id r.data)

/-! ## Remarks of dry runs -/

/-- The number of a severity in the protocol. -/
def severityNumber : Severity → Int
  | .error => 1
  | .warn => 2
  | .info => 3

/-- The remark for a diagnostic. Its places are taken over as they are. -/
def Remark.ofDiagnostic (d : Diagnostic) : Remark where
  range := d.range
  severity := some (severityNumber d.severity)
  code := some (.text d.code.name)
  documentation := none
  source := some dryRunSource
  message := d.message
  related := none
  tags := none
  data := d.suggestion.map fun s => .ofFields [("suggestion", .string s)]

/-- The suggestion of a remark that a dry run made. -/
def Remark.suggestion? (r : Remark) : Option String :=
  if r.source = some dryRunSource then
    match r.data.bind (Value.field? "suggestion") with
    | some (.string s) => some s
    | _ => none
  else none

end SqlxDryRun.Editor
