import SqlxDryRun.Editor.Capabilities
import SqlxDryRun.Editor.Method

/-!
# Messages from an editor

A message has a method and parameters; a request also wants an answer. `Command` is what a message
asks of the server, once its parameters are understood.
-/

namespace SqlxDryRun.Editor

open Json (Value Layout RecordField Decoder Decoded)
open Shape (documentLayout)

/-- A message as it arrives. -/
structure Message where
  kind : MethodKind
  method : String
  params : Option Value
deriving Inhabited

/-- What a message asks of the server. -/
inductive Command where
  | start (root : Option Uri)
  | started
  | shutdown
  | opened (uri : Uri) (text : String)
  /-- The texts of the changes, in order. -/
  | changed (uri : Uri) (texts : List String)
  | saved (uri : Uri) (text : Option String)
  | closed (uri : Uri)
  | complete (uri : Uri) (position : Position)
  | fix (uri : Uri) (remarks : List Remark)
  | execute (command : String) (arguments : List Value)
  /-- Nothing is to be done. -/
  | ignored
  /-- The protocol knows the request, but this server does not serve it. -/
  | unserved
deriving Inhabited

/-! ## Parameters -/

/-- The tokens by which long work may be reported. -/
def tokenFields : List (RecordField σ) :=
  [.ignored "workDoneToken" (Json.optional mark) false,
    .ignored "partialResultToken" (Json.optional mark) false]

/-- The fields of a folder. -/
def folderLayout : Layout Uri where
  fields := [.needed "uri" uri fun _ u => u, .ignored "name" Json.string true]
  default := default
  mayBeShort := false

/-- The levels of tracing. -/
def traceLevel : Decoder Unit :=
  Json.tag fun name => if ["off", "messages", "verbose"].contains name then some () else none

/-- The fields of the name of an editor. -/
def clientLayout : Layout Unit where
  fields := [.ignored "name" Json.string true, .ignored "version" (Json.optional Json.string) false]
  default := ()
  mayBeShort := false

/-- The folders and the root with which an editor starts. -/
structure Start where
  folders : List Uri
  root : Option Uri
deriving Inhabited

/-- The fields of the parameters with which an editor starts. -/
def startLayout : Layout Start where
  fields := [
    .ignored "processId" (Json.optional Json.uint32) false,
    .ignored "rootPath" (Json.optional Json.string) false,
    .optional "rootUri" (Json.optional uri) fun s u => { s with root := u },
    .ignored "initializationOptions" (Json.optional Json.any) false,
    .ignored "capabilities" Capabilities.all true,
    .ignored "trace" (Json.optional traceLevel) false,
    .optional "workspaceFolders" (Json.optional (Json.list folderLayout.decode)) fun s us =>
      { s with folders := us.getD [] },
    .ignored "clientInfo" (Json.optional clientLayout.decode) false,
    .ignored "locale" (Json.optional Json.string) false]
  default := ⟨[], none⟩
  mayBeShort := false

/-- The fields of a document that was opened. -/
def itemLayout : Layout (Uri × String) where
  fields := [
    .needed "uri" uri fun i u => (u, i.2),
    .ignored "languageId" Json.string true,
    .ignored "version" Json.int32 true,
    .needed "text" Json.string fun i t => (i.1, t)]
  default := default
  mayBeShort := false

/-- The fields of a reference to a version of a document. -/
def versionLayout : Layout Uri where
  fields := [.needed "uri" uri fun _ u => u, .ignored "version" Json.int32 true]
  default := default
  mayBeShort := false

/-- The fields of a change. -/
def changeLayout : Layout String where
  fields := [
    .ignored "range" (Json.optional rangeLayout.decode) false,
    .ignored "rangeLength" (Json.optional Json.uint32) false,
    .needed "text" Json.string fun _ t => t]
  default := ""
  mayBeShort := false

/-- The fields of the reason for a completion. -/
def completionContextLayout : Layout Unit where
  fields := [
    .ignored "triggerKind" Json.int32 true,
    .ignored "triggerCharacter" (Json.optional Json.string) false]
  default := ()
  mayBeShort := false

/-- The fields of the remarks for which fixes are wanted. -/
def fixContextLayout : Layout (List Remark) where
  fields := [
    .needed "diagnostics" (Json.list Remark.layout.decode) fun _ rs => rs,
    .ignored "only" (Json.optional (Json.list Json.string)) false,
    .ignored "triggerKind" (Json.optional Json.int32) false]
  default := []
  mayBeShort := false

/-- The command of parameters that are a document, and what else the fields say. -/
def openedLayout : Layout (Uri × String) where
  fields := [.needed "textDocument" itemLayout.decode fun _ i => i]
  default := default
  mayBeShort := false

/-- The fields of changes of a document. -/
def changedLayout : Layout (Uri × List String) where
  fields := [
    .needed "textDocument" versionLayout.decode fun c u => (u, c.2),
    .needed "contentChanges" (Json.list changeLayout.decode) fun c ts => (c.1, ts)]
  default := default
  mayBeShort := false

/-- The fields of a saved document. -/
def savedLayout : Layout (Uri × Option String) where
  fields := [
    .needed "textDocument" documentLayout.decode fun s u => (u, s.2),
    .optional "text" (Json.optional Json.string) fun s t => (s.1, t)]
  default := default
  mayBeShort := false

/-- The fields of a closed document. -/
def closedLayout : Layout Uri where
  fields := [.needed "textDocument" documentLayout.decode fun _ u => u]
  default := default
  mayBeShort := false

/-- The fields of a place to complete at. -/
def completeLayout : Layout (Uri × Position) where
  fields := [
    .needed "textDocument" documentLayout.decode fun c u => (u, c.2),
    .needed "position" positionLayout.decode fun c p => (c.1, p),
    .ignored "context" (Json.optional completionContextLayout.decode) false] ++ tokenFields
  default := default
  mayBeShort := false

/-- The fields of a request for fixes. -/
def fixLayout : Layout (Uri × List Remark) where
  fields := [
    .needed "textDocument" documentLayout.decode fun f u => (u, f.2),
    .ignored "range" rangeLayout.decode true,
    .needed "context" fixContextLayout.decode fun f rs => (f.1, rs)] ++ tokenFields
  default := default
  mayBeShort := false

/-- The fields of a command to execute. -/
def executeLayout : Layout (String × List Value) where
  fields := [
    .needed "command" Json.string fun e c => (c, e.2),
    .optional "arguments" (Json.list Json.any) fun e vs => (e.1, vs),
    .ignored "workDoneToken" (Json.optional mark) false]
  default := default
  mayBeShort := false

/-! ## Commands -/

/-- What a message with parameters asks, as far as its method has any. -/
def Command.ofParams (method : String) (params : Value) : Decoded Command :=
  match method with
  | "initialize" =>
    (startLayout.decode params).map fun s => .start (s.folders.head?.or s.root)
  | "initialized" => ((Layout.mk [] () false).decode params).map fun _ => .started
  | "textDocument/didOpen" => (openedLayout.decode params).map fun (u, t) => .opened u t
  | "textDocument/didChange" => (changedLayout.decode params).map fun (u, ts) => .changed u ts
  | "textDocument/didSave" => (savedLayout.decode params).map fun (u, t) => .saved u t
  | "textDocument/didClose" => (closedLayout.decode params).map .closed
  | "textDocument/completion" =>
    (completeLayout.decodeObject params).map fun (u, p) => .complete u p
  | "textDocument/codeAction" => (fixLayout.decodeObject params).map fun (u, rs) => .fix u rs
  | "workspace/executeCommand" =>
    (executeLayout.decodeObject params).map fun (c, vs) => .execute c vs
  | _ =>
    match unservedRequests.lookup method with
    | some shape => (shape params).map fun _ => .unserved
    | none => .ok .ignored

/-- What a message of a known method asks, unless its parameters are wrong. Only a shutdown has
none. -/
def Command.ofMessage? (m : Message) : Option Command :=
  match m.method, m.params with
  | "shutdown", none => some .shutdown
  | "shutdown", some _ => none
  | _, none => none
  | method, some params => (Command.ofParams method params).toOption

end SqlxDryRun.Editor
