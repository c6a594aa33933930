import SqlxDryRun.Editor.Shape

/-!
# Capabilities of editors

What an editor says about itself when it starts a server. Nothing of it is used, but all that the
protocol knows must have the right shape.
-/

namespace SqlxDryRun.Editor.Capabilities

open Shape

/-! ## Shared parts -/

/-- Whether an editor registers a feature while it runs. -/
def dynamic : Shape := flags ["dynamicRegistration"]

/-- Whether an editor asks again for what a server has shown. -/
def refresh : Shape := flags ["refreshSupport"]

/-- The tags that an editor knows. A truth value may stand for the list. -/
def tags : Shape := either Json.bool (record [needs "valueSet" (Json.list Json.int32)])

/-- The properties that an editor asks for later. -/
def resolve : Shape := record [needs "properties" (Json.list Json.string)]

/-- The kinds that an editor knows. -/
def kinds : Shape := record [allows "valueSet" (Json.list Json.int32)]

/-- The kinds of markup that an editor shows. -/
def markups : Shape := listOf (oneOf ["plaintext", "markdown"])

/-! ## The workspace -/

/-- What an editor can change in a workspace. -/
def workspaceEdit : Shape :=
  record [
    allows "documentChanges" Json.bool,
    allows "resourceOperations" (Json.list (oneOf ["create", "rename", "delete"])),
    allows "failureHandling"
      (oneOf ["abort", "transactional", "textOnlyTransactional", "undo"]),
    allows "normalizesLineEndings" Json.bool,
    allows "changeAnnotationSupport" (flags ["groupsOnLabel"])]

/-- What an editor can do with a workspace. -/
def workspace : Shape :=
  record [
    allows "applyEdit" Json.bool,
    allows "workspaceEdit" workspaceEdit,
    allows "didChangeConfiguration" dynamic,
    allows "didChangeWatchedFiles" (flags ["dynamicRegistration", "relativePatternSupport"]),
    allows "symbol" (record [allows "dynamicRegistration" Json.bool, allows "symbolKind" kinds,
      allows "tagSupport" tags, allows "resolveSupport" resolve]),
    allows "executeCommand" dynamic,
    allows "workspaceFolders" Json.bool,
    allows "configuration" Json.bool,
    allows "semanticTokens" refresh,
    allows "codeLens" refresh,
    allows "fileOperations" (flags ["dynamicRegistration", "didCreate", "willCreate", "didRename",
      "willRename", "didDelete", "willDelete"]),
    allows "inlineValue" refresh,
    allows "inlayHint" refresh,
    allows "diagnostic" refresh]

/-! ## Documents -/

/-- What an editor can do with the entries of a completion list. -/
def completionItem : Shape :=
  record [
    allows "snippetSupport" Json.bool,
    allows "commitCharactersSupport" Json.bool,
    allows "documentationFormat" markups,
    allows "deprecatedSupport" Json.bool,
    allows "preselectSupport" Json.bool,
    allows "tagSupport" tags,
    allows "insertReplaceSupport" Json.bool,
    allows "resolveSupport" resolve,
    allows "insertTextModeSupport" (record [needs "valueSet" (Json.list Json.int32)]),
    allows "labelDetailsSupport" Json.bool]

/-- What an editor can do with completion lists. -/
def completion : Shape :=
  record [
    allows "dynamicRegistration" Json.bool,
    allows "completionItem" completionItem,
    allows "completionItemKind" kinds,
    allows "contextSupport" Json.bool,
    allows "insertTextMode" Json.int32,
    allows "completionList" (record [allows "itemDefaults" (Json.list Json.string)])]

/-- What an editor can do with the signatures of functions. -/
def signatureHelp : Shape :=
  record [
    allows "dynamicRegistration" Json.bool,
    allows "signatureInformation" (record [
      allows "documentationFormat" markups,
      allows "parameterInformation" (flags ["labelOffsetSupport"]),
      allows "activeParameterSupport" Json.bool]),
    allows "contextSupport" Json.bool]

/-- What an editor can do with actions. -/
def codeAction : Shape :=
  record [
    allows "dynamicRegistration" Json.bool,
    allows "codeActionLiteralSupport" (record [
      needs "codeActionKind" (record [needs "valueSet" (Json.list Json.string)])]),
    allows "isPreferredSupport" Json.bool,
    allows "disabledSupport" Json.bool,
    allows "dataSupport" Json.bool,
    allows "resolveSupport" resolve,
    allows "honorsChangeAnnotations" Json.bool]

/-- What an editor can do with the kinds of tokens of a language. -/
def semanticTokens : Shape :=
  record [
    allows "dynamicRegistration" Json.bool,
    needs "requests" (record [
      allows "range" Json.bool,
      allows "full" (either Json.bool (flags ["delta"]))]),
    needs "tokenTypes" (Json.list Json.string),
    needs "tokenModifiers" (Json.list Json.string),
    needs "formats" (Json.list Json.string),
    allows "overlappingTokenSupport" Json.bool,
    allows "multilineTokenSupport" Json.bool,
    allows "serverCancelSupport" Json.bool,
    allows "augmentsSyntaxTokens" Json.bool]

/-- What an editor can do with the symbols of a document. An array may leave out the tags. -/
def documentSymbol : Shape :=
  let fields := [allows "dynamicRegistration" Json.bool, allows "symbolKind" kinds,
    allows "hierarchicalDocumentSymbolSupport" Json.bool]
  let whole := record (fields ++ [allows "tagSupport" tags])
  fun
  | .array items => either whole (record fields) (.array items)
  | v => whole v

/-- What an editor can do with ranges that fold. -/
def foldingRange : Shape :=
  record [
    allows "dynamicRegistration" Json.bool,
    allows "rangeLimit" Json.uint32,
    allows "lineFoldingOnly" Json.bool,
    allows "foldingRangeKind" (record [
      allows "valueSet" (Json.list (oneOf ["comment", "imports", "region"]))]),
    allows "foldingRange" (flags ["collapsedText"])]

/-- What an editor can do with the places where something is defined. -/
def links : Shape := flags ["dynamicRegistration", "linkSupport"]

/-- What an editor can do with a document. -/
def document : Shape :=
  record [
    allows "synchronization"
      (flags ["dynamicRegistration", "willSave", "willSaveWaitUntil", "didSave"]),
    allows "completion" completion,
    allows "hover" (record [allows "dynamicRegistration" Json.bool,
      allows "contentFormat" markups]),
    allows "signatureHelp" signatureHelp,
    allows "references" dynamic,
    allows "documentHighlight" dynamic,
    allows "documentSymbol" documentSymbol,
    allows "formatting" dynamic,
    allows "rangeFormatting" dynamic,
    allows "onTypeFormatting" dynamic,
    allows "declaration" links,
    allows "definition" links,
    allows "typeDefinition" links,
    allows "implementation" links,
    allows "codeAction" codeAction,
    allows "codeLens" dynamic,
    allows "documentLink" (flags ["dynamicRegistration", "tooltipSupport"]),
    allows "colorProvider" dynamic,
    allows "rename" (record [allows "dynamicRegistration" Json.bool,
      allows "prepareSupport" Json.bool, allows "prepareSupportDefaultBehavior" Json.int32,
      allows "honorsChangeAnnotations" Json.bool]),
    allows "publishDiagnostics" (record [allows "relatedInformation" Json.bool,
      allows "tagSupport" tags, allows "versionSupport" Json.bool,
      allows "codeDescriptionSupport" Json.bool, allows "dataSupport" Json.bool]),
    allows "foldingRange" foldingRange,
    allows "selectionRange" dynamic,
    allows "linkedEditingRange" dynamic,
    allows "callHierarchy" dynamic,
    allows "semanticTokens" semanticTokens,
    allows "moniker" dynamic,
    allows "typeHierarchy" dynamic,
    allows "inlineValue" dynamic,
    allows "inlayHint" (record [allows "dynamicRegistration" Json.bool,
      allows "resolveSupport" resolve]),
    allows "diagnostic" (flags ["dynamicRegistration", "relatedDocumentSupport"])]

/-! ## The whole -/

/-- What an editor can do with its window. -/
def window : Shape :=
  record [
    allows "workDoneProgress" Json.bool,
    allows "showMessage" (record [
      allows "messageActionItem" (flags ["additionalPropertiesSupport"])]),
    allows "showDocument" (record [needs "support" Json.bool])]

/-- What an editor can do that belongs to no part of it. -/
def general : Shape :=
  record [
    allows "regularExpressions" (record [needs "engine" Json.string,
      allows "version" Json.string]),
    allows "markdown" (record [needs "parser" Json.string, allows "version" Json.string,
      allows "allowedTags" (Json.list Json.string)]),
    allows "staleRequestSupport" (record [needs "cancel" Json.bool,
      needs "retryOnContentModified" (Json.list Json.string)]),
    allows "positionEncodings" (Json.list Json.string)]

/-- All that an editor says about itself. -/
def all : Shape :=
  record [
    allows "workspace" workspace,
    allows "textDocument" document,
    allows "window" window,
    allows "general" general,
    allows "experimental" Json.any]

end SqlxDryRun.Editor.Capabilities
