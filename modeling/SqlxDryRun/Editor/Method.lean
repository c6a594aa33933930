import SqlxDryRun.Editor.Unserved

/-!
# Methods of the protocol

Every method that an editor may use, and what kind of message it is for. A method that is not listed
is unknown.
-/

namespace SqlxDryRun.Editor

/-- The kinds of messages that a method is for. -/
inductive MethodKind where
  | request
  | notification
deriving DecidableEq, Repr, Inhabited

/-- The requests that are served. -/
def servedRequests : List String :=
  ["initialize", "shutdown", "textDocument/completion", "textDocument/codeAction",
    "workspace/executeCommand"]

/-- The notifications that an editor may send. -/
def notifications : List String :=
  ["initialized", "exit", "textDocument/didOpen", "textDocument/didChange",
    "textDocument/willSave", "textDocument/didSave", "textDocument/didClose",
    "workspace/didChangeConfiguration", "workspace/didChangeWorkspaceFolders",
    "workspace/didCreateFiles", "workspace/didRenameFiles", "workspace/didDeleteFiles",
    "workspace/didChangeWatchedFiles"]

/-- What a method is for, unless it is unknown. -/
def methodKind? (method : String) : Option MethodKind :=
  if servedRequests.contains method || (unservedRequests.lookup method).isSome then some .request
  else if notifications.contains method then some .notification
  else none

end SqlxDryRun.Editor
