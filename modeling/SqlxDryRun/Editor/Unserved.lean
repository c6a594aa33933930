import SqlxDryRun.Editor.Shape

/-!
# Requests without service

The protocol has many requests that this server does not serve. Their parameters are looked at
nevertheless: wrong parameters are refused as such, and right ones because nobody serves the
request.

Main definitions:

* `unservedRequests`: every such request, with the shape of its parameters.
-/

namespace SqlxDryRun.Editor

open Json (RecordField)
open Shape

namespace Shape

/-- Parameters that name a place, with further fields. -/
def placeWith (fields : List (RecordField Unit)) : Shape := object (place ++ fields)

/-- Parameters that name a document, with further fields. -/
def documentWith (fields : List (RecordField Unit)) : Shape := object (document :: fields)

/-! ## Functions and types -/

/-- Two natural numbers. -/
def bounds : Shape := fun v =>
  match Json.list Json.uint32 v with
  | .ok [_, _] => .ok ()
  | .ok _ => .error .mismatch
  | .error p => .error p

/-- A parameter of a function. -/
def parameter : Shape :=
  record [needs "label" (either Json.string bounds), allows "documentation" documentation]

/-- The signature of a function. -/
def signature : Shape :=
  record [needs "label" Json.string, allows "documentation" documentation,
    allows "parameters" (Json.list parameter), allows "activeParameter" Json.uint32]

/-- The signatures that an editor shows. -/
def signatures : Shape :=
  record [needs "signatures" (Json.list signature), allows "activeSignature" Json.uint32,
    allows "activeParameter" Json.uint32]

/-- Why an editor asks for signatures. -/
def signatureContext : Shape :=
  record [needs "triggerKind" Json.int32, allows "triggerCharacter" Json.string,
    needs "isRetrigger" Json.bool, allows "activeSignatureHelp" signatures]

/-- An item of a hierarchy, with tags of a given shape. -/
def hierarchyItem (tags : Shape) : Shape :=
  record [needs "name" Json.string, needs "kind" Json.int32, allows "tags" tags,
    allows "detail" Json.string, needs "uri" uri, range,
    needs "selectionRange" rangeLayout.decode, allows "data" Json.any]

/-- Parameters that name an item of a hierarchy of calls. -/
def callItem : Shape := object (needs "item" (hierarchyItem (listOf Json.int32)) :: tokens)

/-- Parameters that name an item of a hierarchy of types. -/
def typeItem : Shape := object (needs "item" (hierarchyItem (taken Json.int32)) :: tokens)

/-! ## Documents -/

/-- How a document is formatted. Editors may add options of their own. -/
def formatOptions : Shape := fun v =>
  let own : Shape := either Json.bool mark
  match v with
  | .object fields => do
    object [needs "tabSize" Json.uint32, needs "insertSpaces" Json.bool,
      allows "trimTrailingWhitespace" Json.bool, allows "insertFinalNewline" Json.bool,
      allows "trimFinalNewlines" Json.bool] v
    ownEntries own fields
  | v => .error v.mismatch
where
  /-- The entries that are options of the editor's own. -/
  ownEntries (own : Shape) : Json.Fields → Json.Decoded Unit
    | .more (some key) v rest => do
      if ["tabSize", "insertSpaces", "trimTrailingWhitespace", "insertFinalNewline",
          "trimFinalNewlines"].contains key then pure ()
      else own v
      ownEntries own rest
    | _ => .ok ()

/-- A colour. -/
def color : Shape := record (["red", "green", "blue", "alpha"].map fun key => needs key number)

/-- A place where a program stopped. -/
def stop : Shape :=
  record [needs "frameId" Json.int32, needs "stoppedLocation" rangeLayout.decode]

/-- The result that an editor has for a document. -/
def previousResult : Shape := record [needs "uri" uri, needs "value" Json.string]

/-- A link in a document. -/
def link : Shape :=
  record [range, allows "target" uri, allows "tooltip" Json.string, allows "data" Json.any]

/-- A command above a line. -/
def lens : Shape := record [range, allows "command" command, allows "data" Json.any]

/-- A part of the label of a hint. -/
def labelPart : Shape :=
  record [needs "value" Json.string, allows "tooltip" documentation,
    allows "location" locationLayout.decode, allows "command" command]

/-- A hint in a line. -/
def hint : Shape :=
  record [
    needs "position" positionLayout.decode,
    needs "label" (either Json.string (Json.list labelPart)),
    allows "kind" Json.int32,
    allows "textEdits" (Json.list edit),
    allows "tooltip" documentation,
    allows "paddingLeft" Json.bool,
    allows "paddingRight" Json.bool,
    allows "data" Json.any]

/-- A change that either inserts or replaces. -/
def insertOrReplace : Shape :=
  record [needs "newText" Json.string, needs "insert" rangeLayout.decode,
    needs "replace" rangeLayout.decode]

/-- The entry of a completion list. -/
def completionItem : Shape :=
  record [
    needs "label" Json.string,
    allows "labelDetails" (record [allows "detail" Json.string,
      allows "description" Json.string]),
    allows "kind" Json.int32,
    allows "detail" Json.string,
    allows "documentation" documentation,
    allows "deprecated" Json.bool,
    allows "preselect" Json.bool,
    allows "sortText" Json.string,
    allows "filterText" Json.string,
    allows "insertText" Json.string,
    allows "insertTextFormat" Json.int32,
    allows "insertTextMode" Json.int32,
    allows "textEdit" (either edit insertOrReplace),
    allows "additionalTextEdits" (Json.list edit),
    allows "command" command,
    allows "commitCharacters" (Json.list Json.string),
    allows "data" Json.any,
    allows "tags" (Json.list Json.int32)]

/-- An action on code. -/
def codeAction : Shape :=
  record [
    needs "title" Json.string,
    allows "kind" Json.string,
    allows "diagnostics" (Json.list Remark.layout.decode),
    allows "edit" workspaceEdit,
    allows "command" command,
    allows "isPreferred" Json.bool,
    allows "disabled" (record [needs "reason" Json.string]),
    allows "data" Json.any]

/-! ## Workspaces -/

/-- A symbol of a workspace. -/
def symbol : Shape :=
  record [
    needs "name" Json.string,
    needs "kind" Json.int32,
    allows "tags" (Json.list Json.int32),
    allows "containerName" Json.string,
    needs "location" (either locationLayout.decode (record [needs "uri" uri])),
    allows "data" Json.any]

/-- Parameters that list files with the given fields. -/
def files (keys : List String) : Shape :=
  record [needs "files" (Json.list (record (keys.map fun key => needs key Json.string)))]

end Shape

/-- The requests that are not served, with the shapes of their parameters. -/
def unservedRequests : List (String × Shape) :=
  [("textDocument/declaration", placeWith tokens),
    ("textDocument/definition", placeWith tokens),
    ("textDocument/typeDefinition", placeWith tokens),
    ("textDocument/implementation", placeWith tokens),
    ("textDocument/references",
      placeWith (needs "context" (record [needs "includeDeclaration" Json.bool]) :: tokens)),
    ("textDocument/prepareCallHierarchy", placeWith [workToken]),
    ("callHierarchy/incomingCalls", callItem),
    ("callHierarchy/outgoingCalls", callItem),
    ("textDocument/prepareTypeHierarchy", placeWith [workToken]),
    ("typeHierarchy/supertypes", typeItem),
    ("typeHierarchy/subtypes", typeItem),
    ("textDocument/documentHighlight", placeWith tokens),
    ("textDocument/documentLink", documentWith tokens),
    ("documentLink/resolve", link),
    ("textDocument/hover", placeWith [workToken]),
    ("textDocument/codeLens", documentWith tokens),
    ("codeLens/resolve", lens),
    ("textDocument/foldingRange", documentWith tokens),
    ("textDocument/selectionRange",
      documentWith (needs "positions" (Json.list positionLayout.decode) :: tokens)),
    ("textDocument/documentSymbol", documentWith tokens),
    ("textDocument/semanticTokens/full", documentWith tokens),
    ("textDocument/semanticTokens/full/delta",
      documentWith (needs "previousResultId" Json.string :: tokens)),
    ("textDocument/semanticTokens/range", documentWith (range :: tokens)),
    ("textDocument/inlineValue", documentWith [range, needs "context" stop, workToken]),
    ("textDocument/inlayHint", documentWith [range, workToken]),
    ("inlayHint/resolve", hint),
    ("textDocument/moniker", placeWith tokens),
    ("completionItem/resolve", completionItem),
    ("textDocument/diagnostic",
      documentWith (allows "identifier" Json.string :: allows "previousResultId" Json.string ::
        tokens)),
    ("workspace/diagnostic",
      object (allows "identifier" Json.string ::
        needs "previousResultIds" (Json.list previousResult) :: tokens)),
    ("textDocument/signatureHelp", placeWith [allows "context" signatureContext, workToken]),
    ("codeAction/resolve", codeAction),
    ("textDocument/documentColor", documentWith tokens),
    ("textDocument/colorPresentation", documentWith (needs "color" color :: range :: tokens)),
    ("textDocument/formatting", documentWith [needs "options" formatOptions, workToken]),
    ("textDocument/rangeFormatting",
      documentWith [range, needs "options" formatOptions, workToken]),
    ("textDocument/onTypeFormatting",
      placeWith [needs "ch" Json.string, needs "options" formatOptions]),
    ("textDocument/rename", placeWith [needs "newName" Json.string, workToken]),
    ("textDocument/prepareRename", record place),
    ("textDocument/linkedEditingRange", placeWith [workToken]),
    ("textDocument/willSaveWaitUntil", record [document, needs "reason" Json.int32]),
    ("workspace/symbol", object (needs "query" Json.string :: tokens)),
    ("workspaceSymbol/resolve", symbol),
    ("workspace/willCreateFiles", files ["uri"]),
    ("workspace/willRenameFiles", files ["oldUri", "newUri"]),
    ("workspace/willDeleteFiles", files ["uri"])]

end SqlxDryRun.Editor
