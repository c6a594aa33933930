import SqlxDryRun.Editor.Remark
import SqlxDryRun.Surface

/-!
# Notifications to an editor

What an editor is told: messages, which are logged or shown, and the remarks about a document. A
notice of a dry run is logged and then shown.
-/

namespace SqlxDryRun.Editor

open Json (Value)

/-- A message without an answer. -/
structure Notification where
  method : String
  params : Value
deriving Inhabited

namespace Notification

/-- The number of a level in the protocol. -/
def levelNumber : Level → Int
  | .error => 1
  | .warning => 2
  | .info => 3

/-- The parameters of a message to the user. -/
def messageJson (level : Level) (text : String) : Value :=
  .ofFields [("type", intJson (levelNumber level)), ("message", .string text)]

/-- Logs a message. -/
def log (level : Level) (text : String) : Notification :=
  ⟨"window/logMessage", messageJson level text⟩

/-- Shows a message. -/
def display (level : Level) (text : String) : Notification :=
  ⟨"window/showMessage", messageJson level text⟩

/-- Replaces the remarks about a document. -/
def publish (u : Uri) (rs : List Remark) : Notification :=
  ⟨"textDocument/publishDiagnostics",
    .ofFields [("uri", .string u.toString), ("diagnostics", .ofItems (rs.map Remark.toJson))]⟩

/-- What an editor is told about an event. -/
def ofEvent : Event → List Notification
  | .published p ds =>
    match Uri.ofPath? p with
    | some u => [publish u (ds.map Remark.ofDiagnostic)]
    | none => []
  | .told n => [log n.level n.text, display n.level n.text]
  | .saved _ => []

end Notification

end SqlxDryRun.Editor
