import SqlxDryRun.Compiler
import SqlxDryRun.Locks
import SqlxDryRun.Project.Lookup
import SqlxDryRun.SourceFile
import SqlxDryRun.Surface
import SqlxDryRun.Validation.Service

/-!
# The parts of a dry run

A dry run validates the compiled query of one source file. Its *tools* stay the same while it runs;
the *desk* is what all runs share and change. The board keeps the diagnostic that is current for
each path; the offers are what an editor completes.

Main definitions:

* `Outcome`: how a run ends;
* `Tools`, `Desk`: what it uses and what it changes;
* `Desk.publish`, `Desk.clear`: a diagnostic appears on the board and then on the surface, and
  disappears in the same order.
-/

namespace SqlxDryRun.DryRun

/-- How a dry run ends. -/
inductive Outcome where
  /-- The file is no source file. -/
  | unsupported
  | notAWorkspace
  | compilationFailed (detail : String)
  /-- Nothing was compiled from a file of this name. -/
  | queryNotFound (name : String)
  /-- The validation service gave no reply. -/
  | transportFailed (detail : String)
  /-- The query was refused, and the diagnostic is shown. -/
  | errorFound (d : Diagnostic)
  | success (target : String) (bytes : UInt64)
deriving DecidableEq, Repr, Inhabited

namespace Outcome

/-- Whether the query is valid. -/
def isSuccess : Outcome → Bool
  | success .. => true
  | _ => false

end Outcome

/-- What a dry run works with: settings, the layout of the compiler's queries, the compiler, and the
validation service with the time it takes for an answer. -/
structure Tools where
  settings : Settings
  environment : Environment
  layout : QueryLayout
  compile : Disk → Path → Except CompileError Project
  validate : String → Except Validation.Failure Validation.Reply
  latency : Duration

namespace Tools

/-- The layout of queries: the compiler's, unless the settings say otherwise. -/
def queryLayout (t : Tools) : QueryLayout :=
  ⟨t.settings.preambleLines.getD t.layout.preambleLines,
    t.settings.highlightWidth.getD t.layout.highlightWidth⟩

end Tools

/-- What an editor offers to complete: the tags of a project, and the names that can be depended on.
-/
structure Offers where
  tags : List String
  dependencies : List String
deriving DecidableEq, Repr, Inhabited

/-- What all runs share: the files, the surface, the board of current diagnostics, the offers and
the locks; the number of compilations and the queries submitted so far; and the time. -/
structure Desk where
  disk : Disk
  surface : Surface
  board : PathMap Diagnostic
  offers : Offers
  locks : Locks
  compilations : Nat
  submitted : List String
  now : Duration
deriving Inhabited

namespace Desk

/-- A desk where nothing happened yet. -/
def start (disk : Disk) (surface : Surface) : Desk :=
  ⟨disk, surface, .empty, ⟨[], []⟩, .empty, 0, [], ⟨0⟩⟩

/-- Shows a notice. -/
def tell (d : Desk) (n : Notice) : Desk :=
  { d with surface := d.surface.tell n }

/-- Puts a diagnostic on the board. -/
def post (d : Desk) (p : Path) (diagnostic : Diagnostic) : Desk :=
  { d with board := d.board.insert p diagnostic }

/-- Takes the diagnostic of a path off the board. -/
def withdraw (d : Desk) (p : Path) : Desk :=
  { d with board := d.board.erase p }

/-- Lets the surface show the given diagnostics for a path. -/
def display (d : Desk) (p : Path) (ds : List Diagnostic) : Desk :=
  { d with surface := d.surface.publish p ds }

/-- Makes a diagnostic the current one of a path and shows it. -/
def publish (d : Desk) (p : Path) (diagnostic : Diagnostic) : Desk :=
  (d.post p diagnostic).display p [diagnostic]

/-- Removes the current diagnostic of a path. If there is none, the surface is told nothing. -/
def clear (d : Desk) (p : Path) : Desk :=
  if (d.board.get? p).isSome then (d.withdraw p).display p [] else d

/-- Replaces the offers by those of a project. -/
def refresh (d : Desk) (project : Project) : Desk :=
  { d with offers := ⟨project.tags, project.dependencies⟩ }

/-- The text of a document: its buffer, else its file, else nothing. -/
def textOf (d : Desk) (p : Path) : String :=
  match d.surface.bufferOf? p with
  | some text => text
  | none => (d.disk.readText p).toOption.getD ""

end Desk

end SqlxDryRun.DryRun
