import SqlxDryRun.DryRun.Basic
import SqlxDryRun.Editor.Message
import SqlxDryRun.Editor.Notification
import SqlxDryRun.Editor.QuickFix
import SqlxDryRun.Validation.Connection
import SqlxDryRun.Workspace

/-!
# The server of an editor

The server keeps the text of every open document, completes tags and dependencies, offers quick
fixes and runs a dry run when a source file is saved or the editor asks for one. It passes through
phases: an editor starts it, uses it, stops it and ends it, and what is not right for a phase is
refused.

Main definitions:

* `Server`: what the server knows;
* `serve`: what a command does in the phase in which it is right;
* `receive`: what a message does in any phase.
-/

namespace SqlxDryRun.Editor

open Json (Value)

/-- The phases of a server. -/
inductive Phase where
  | fresh
  | running
  | stopped
  | ended
deriving DecidableEq, Repr, Inhabited

/-- What a server knows: its phase, the root that the editor named, the settings, the texts of open
documents by the bytes of their paths, and what it offers to complete. -/
structure Server where
  phase : Phase
  root : Option Path
  settings : Settings
  documents : PathMap String
  offers : DryRun.Offers
deriving Inhabited

/-- The reasons for refusing a request. -/
inductive Refusal where
  | notStarted
  | notNow
  | notARequest
  | unknownMethod
  | wrongParameters
deriving DecidableEq, Repr, Inhabited

/-- The number of a reason in the protocol. -/
def Refusal.number : Refusal → Int
  | notStarted => -32002
  | notNow => -32600
  | notARequest => -32600
  | unknownMethod => -32601
  | wrongParameters => -32602

/-- The answer to a request. -/
abbrev Answer := Except Refusal Value

/-- What the world notices of a message: an answer if there is one, notifications, and programs that
were called. -/
structure Reaction where
  answer : Option Answer
  notifications : List Notification
  calls : List Call
deriving Inhabited

namespace Reaction

/-- No reaction. -/
def silent : Reaction := ⟨none, [], []⟩

/-- An answer alone. -/
def answering (a : Answer) : Reaction := ⟨some a, [], []⟩

/-- Notifications alone. -/
def notifying (ns : List Notification) : Reaction := ⟨none, ns, []⟩

end Reaction

namespace Server

/-- A server that nobody has started yet. -/
def fresh : Server := ⟨.fresh, none, .default, .empty, ⟨[], []⟩⟩

/-- The name of the command that runs a dry run. -/
def dryRunCommand : String := "dataform.dryRunFile"

/-- What the server can do. -/
def capabilities : Value :=
  .ofFields [
    ("textDocumentSync", .ofFields [
      ("openClose", .bool true),
      ("change", intJson 1),
      ("save", .ofFields [("includeText", .bool true)])]),
    ("completionProvider", .ofFields [("triggerCharacters", .ofStrings ["\"", "'"])]),
    ("codeActionProvider", .bool true),
    ("executeCommandProvider", .ofFields [("commands", .ofStrings [dryRunCommand])])]

/-- The settings at the root, and a warning if they cannot be read. -/
def loadSettings (disk : Disk) (root : Option Path) : Settings × List Notification :=
  match root with
  | none => (.default, [])
  | some r =>
    match Settings.discover disk r with
    | .ok s => (s, [])
    | .error e =>
      let file := r.child Settings.fileName
      (.default, [.log .warning ("Failed to load " ++ file.toString ++ ": " ++ e.message)])

/-- The text of an open document. -/
def textOf? (s : Server) (u : Uri) : Option String :=
  u.toBytePath?.bind s.documents.get?

/-- The server after the editor gave a text for a document. -/
def keepText (s : Server) (u : Uri) (text : String) : Server :=
  match u.toBytePath? with
  | some p => { s with documents := s.documents.insert p text }
  | none => s

/-- The server after the editor closed a document. -/
def forget (s : Server) (u : Uri) : Server :=
  match u.toBytePath? with
  | some p => { s with documents := s.documents.erase p }
  | none => s

/-- The workspace of a document: the nearest one at or above it, else the root. -/
def workspaceOf? (s : Server) (disk : Disk) (p : Path) : Option Path :=
  (Workspace.rootOf? disk p).or s.root

/-- What a dry run of a document comes to: it needs a workspace and the validation service. -/
def dryRun (s : Server) (disk : Disk) (env : Environment) (p : Path) : List Notification :=
  match s.workspaceOf? disk p with
  | none => []
  | some _ =>
    let e := s.settings.service.connectFailure env
    [.display .error ("Dry runs are unavailable: " ++ e.message)]

/-- Compiles the workspace at the root, so that there is something to complete with. -/
def warmUp (s : Server) (host : Host) : Server × List Call :=
  match s.root with
  | none => (s, [])
  | some root =>
    if Workspace.isRoot host.disk root then
      let compiler := Compiler.ofSettings s.settings.compiler
      let s :=
        match compiler.compile host.start root with
        | .ok p => { s with offers := ⟨p.tags, p.dependencies⟩ }
        | .error _ => s
      (s, [compiler.call root])
    else (s, [])

/-- The entry of a completion list. -/
def completionItem (kind : Int) (detail label : String) : Value :=
  .ofFields [("label", .string label), ("kind", intJson kind), ("detail", .string detail)]

/-- What completes a document at a position. -/
def complete (s : Server) (u : Uri) (p : Position) : Value :=
  match ((s.textOf? u).bind fun text => linePrefix? text p).bind CompletionTarget.ofPrefix? with
  | some .tags => .ofItems (s.offers.tags.map (completionItem 12 "tag"))
  | some .dependencies => .ofItems (s.offers.dependencies.map (completionItem 18 "dependency"))
  | none => .null

/-- The fixes for remarks about a document. -/
def fixes (s : Server) (u : Uri) (remarks : List Remark) : List QuickFix :=
  remarks.filterMap (QuickFix.ofRemark? u (s.textOf? u))

/-- The file that the first argument of a command names. -/
def fileOf? (arguments : List Value) : Option Path :=
  match arguments with
  | .string s :: _ => (Uri.ofString? s).bind Uri.toPath?
  | _ => none

/-- Executes a command. -/
def execute (s : Server) (disk : Disk) (env : Environment) (command : String)
    (arguments : List Value) : List Notification :=
  if command != dryRunCommand then []
  else
    match fileOf? arguments with
    | none => [.display .error (dryRunCommand ++ " expects a file URI")]
    | some p => s.dryRun disk env p

/-- What happens when the editor has saved a document. -/
def save (s : Server) (disk : Disk) (env : Environment) (u : Uri) (text : Option String) :
    Server × List Notification :=
  match u.toPath? with
  | none => (s, [])
  | some p =>
    let s :=
      match text with
      | some t => s.keepText u t
      | none => s
    let (settings, warnings) := loadSettings disk s.root
    let s := { s with settings := settings }
    (s, warnings ++ if (u.toNamedPath?.bind logicalName?).isSome then s.dryRun disk env p else [])

/-- What a command does. -/
def serve (s : Server) (host : Host) (env : Environment) : Command → Server × Reaction
  | .start root =>
    let root := root.bind Uri.toPath?
    let (settings, warnings) := loadSettings host.disk root
    ({ s with phase := .running, root := root, settings := settings },
      ⟨some (.ok (.ofFields [("capabilities", capabilities)])),
        warnings ++ [.log .info "Dataform LSP initialized"], []⟩)
  | .started =>
    let (s, calls) := s.warmUp host
    (s, ⟨none, [.log .info "Dataform LSP server initialized"], calls⟩)
  | .shutdown => (s, .answering (.ok .null))
  | .opened u text => (s.keepText u text, .silent)
  | .changed u texts =>
    match texts with
    | text :: _ => (s.keepText u text, .silent)
    | [] => (s, .silent)
  | .saved u text =>
    let (s, ns) := s.save host.disk env u text
    (s, .notifying ns)
  | .closed u => (s.forget u, .silent)
  | .complete u p => (s, .answering (.ok (s.complete u p)))
  | .fix u remarks =>
    let fs := s.fixes u remarks
    (s, .answering (.ok (if fs.isEmpty then .null else .ofItems (fs.map QuickFix.toJson))))
  | .execute command arguments =>
    (s, ⟨some (.ok .null), s.execute host.disk env command arguments, []⟩)
  | .ignored => (s, .silent)
  | .unserved => (s, .answering (.error .unknownMethod))

/-- The reaction to a message that is refused: only a request gets an answer. -/
def refuse (m : Message) (r : Refusal) : Reaction :=
  match m.kind with
  | .request => .answering (.error r)
  | .notification => .silent

/-- What a message does whose phase is right. The method must be right for its kind: a notification
cannot be requested. -/
def serveMessage (s : Server) (host : Host) (env : Environment) (m : Message) : Server × Reaction :=
  if methodKind? m.method != some m.kind then (s, refuse m .notARequest)
  else
    match Command.ofMessage? m with
    | some c => s.serve host env c
    | none => (s, refuse m .wrongParameters)

/-- What a message does, unless the server has ended. A message to end it is right in every phase;
the message that starts it is right once; every other one is right while it runs. A message whose
method begins with a dollar sign may be ignored. -/
def receive (s : Server) (host : Host) (env : Environment) (m : Message) :
    Option (Server × Reaction) :=
  if s.phase == .ended then none
  else if m.method.startsWith "$/" then some (s, .silent)
  else if (methodKind? m.method).isNone then some (s, refuse m .unknownMethod)
  else if m.method == "exit" then some ({ s with phase := .ended }, .silent)
  else if m.method == "initialize" then
    if s.phase == .fresh then some (s.serveMessage host env m) else some (s, refuse m .notNow)
  else
    match s.phase with
    | .running =>
      let s := if m.method == "shutdown" then { s with phase := .stopped } else s
      some (s.serveMessage host env m)
    | .fresh => some (s, refuse m .notStarted)
    | _ => some (s, refuse m .notNow)

end Server

end SqlxDryRun.Editor
