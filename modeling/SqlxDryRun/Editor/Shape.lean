import SqlxDryRun.Editor.Remark

/-!
# Shapes of the protocol's data

What the data of messages must look like where nothing of them is kept. A shape is a decoder without
a result. Records of the protocol may be written as arrays, but for those that share fields with
others: these are objects always.

Main definitions:

* `record`, `needs`, `allows`: the shape of a record;
* `either`: one of two shapes;
* `edit`, `workspaceEdit`, `command`, `markup`: shapes that several messages share.
-/

namespace SqlxDryRun.Editor

open Json (Value Fields Layout RecordField Decoder)

/-- What a value must look like. -/
abbrev Shape := Decoder Unit

namespace Shape

/-! ## Building shapes -/

/-- The shape of what a decoder takes. -/
def taken (decode : Decoder α) : Shape := fun v => (decode v).map fun _ => ()

/-- A field that a record must have. -/
def needs (key : String) (decode : Decoder α) : RecordField Unit := .ignored key decode true

/-- A field that a record may leave out, or have with the value `null`. -/
def allows (key : String) (decode : Decoder α) : RecordField Unit :=
  .ignored key (Json.optional decode) false

/-- A record that may be written as an array. -/
def record (fields : List (RecordField Unit)) : Shape := (Layout.mk fields () false).decode

/-- A record that is never written as an array. -/
def object (fields : List (RecordField Unit)) : Shape := (Layout.mk fields () false).decodeObject

/-- A list. -/
def listOf (decode : Decoder α) : Shape := taken (Json.list decode)

/-- One of two shapes. -/
def either (first : Decoder α) (second : Decoder β) : Shape := fun v =>
  match first v with
  | .ok _ => .ok ()
  | .error _ => taken second v

/-- One of some names. -/
def oneOf (names : List String) : Shape :=
  Json.tag fun name => if names.contains name then some () else none

/-- A number of any kind. -/
def number : Shape
  | .number .tooLarge => .error .malformed
  | .number _ => .ok ()
  | v => .error v.mismatch

/-- The fields of an object, each with a key and a value of given shapes. -/
def entries (key : String → Bool) (decode : Decoder α) : Fields → Json.Decoded Unit
  | .more (some k) v rest => do
    if key k then do
      let _ ← decode v
      entries key decode rest
    else .error .mismatch
  | .more none _ _ => .error .malformed
  | .broken b => .error b.used.problem
  | .closed => .ok ()

/-- An object whose keys and values have given shapes. -/
def mapOf (key : String → Bool) (decode : Decoder α) : Shape
  | .object fields => entries key decode fields
  | v => .error v.mismatch

/-! ## Shared fields -/

/-- The field by which long work may be reported. -/
def workToken : RecordField Unit := allows "workDoneToken" mark

/-- The fields by which long work and parts of its result may be reported. -/
def tokens : List (RecordField Unit) := [workToken, allows "partialResultToken" mark]

/-- The fields of a reference to a document. -/
def documentLayout : Layout Uri where
  fields := [.needed "uri" uri fun _ u => u]
  default := default
  mayBeShort := false

/-- The field that names a document. -/
def document : RecordField Unit := needs "textDocument" documentLayout.decode

/-- The fields that name a place in a document. -/
def place : List (RecordField Unit) := [document, needs "position" positionLayout.decode]

/-- The field of a range. -/
def range : RecordField Unit := needs "range" rangeLayout.decode

/-! ## Shared records -/

/-- A command that an editor may offer. -/
def command : Shape :=
  record [needs "title" Json.string, needs "command" Json.string,
    allows "arguments" (Json.list Json.any)]

/-- A text with the kind of its markup. -/
def markup : Shape :=
  record [needs "kind" (oneOf ["plaintext", "markdown"]), needs "value" Json.string]

/-- A text with or without markup. -/
def documentation : Shape := either Json.string markup

/-- A change of a range. -/
def edit : Shape := record [range, needs "newText" Json.string]

/-- Changes of a version of a document. -/
def documentEdit : Shape :=
  record [
    needs "textDocument" (record [needs "uri" uri, allows "version" Json.int32]),
    needs "edits" (Json.list edit)]

/-- Options that are flags. -/
def flags (keys : List String) : Shape := record (keys.map fun key => allows key Json.bool)

/-- The creation of a file. -/
def fileCreation : Shape :=
  record [needs "uri" uri, allows "options" (flags ["overwrite", "ignoreIfExists"]),
    allows "annotationId" Json.string]

/-- The renaming of a file. -/
def fileRenaming : Shape :=
  record [needs "oldUri" uri, needs "newUri" uri,
    allows "options" (flags ["overwrite", "ignoreIfExists"]), allows "annotationId" Json.string]

/-- The deletion of a file. -/
def fileDeletion : Shape :=
  record [needs "uri" uri,
    allows "options" (record [allows "recursive" Json.bool, allows "ignoreIfNotExists" Json.bool,
      allows "annotationId" Json.string])]

/-- The shape of an operation of a kind. -/
def fileOperationOf (kind : String) : Shape :=
  match kind with
  | "create" => fileCreation
  | "rename" => fileRenaming
  | "delete" => fileDeletion
  | _ => fun _ => .error .mismatch

/-- An operation on a file. Its kind is a field of an object, or the first item of an array. -/
def fileOperation : Shape := fun v =>
  match v with
  | .array (.more (.string kind) rest) => fileOperationOf kind (.array rest)
  | v =>
    match v.field? "kind" with
    | some (.string kind) => fileOperationOf kind v
    | _ => .error .mismatch

/-- Changes of a workspace. -/
def workspaceEdit : Shape :=
  record [
    allows "changes" (mapOf (fun key => (Uri.ofString? key).isSome) (Json.list edit)),
    allows "documentChanges" (Json.list (either fileOperation documentEdit)),
    allows "changeAnnotations" (mapOf (fun _ => true) (record [needs "label" Json.string,
      allows "needsConfirmation" Json.bool, allows "description" Json.string]))]

end Shape

end SqlxDryRun.Editor
