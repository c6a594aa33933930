import SqlxDryRun.Diagnostic
import SqlxDryRun.Disk
import SqlxDryRun.PathMap
import SqlxDryRun.Terminal

/-!
# What the user sees

A surface is where a dry run reports to. There are three kinds. A *recorder* serves open buffers and
keeps what it is told; saving writes nothing. An *editor* writes a buffer to its file if the two
differ, and shows diagnostics for absolute paths only. A *terminal* knows no buffers and has nothing
to save.

Main definitions:

* `publish`, `tell`, `save`, `bufferOf?`: what a dry run asks of a surface;
* `events`, `shownFor`: what it was told, in order, and which diagnostics it shows for a path.
-/

namespace SqlxDryRun

/-- The kinds of surfaces. -/
inductive SurfaceKind where
  | recorder
  | editor
  | terminal
deriving DecidableEq, Repr, Inhabited

/-- A message for the user. -/
structure Notice where
  level : Level
  text : String
deriving DecidableEq, Repr, Inhabited

/-- Something that a surface was told. -/
inductive Event where
  | published (path : Path) (diagnostics : List Diagnostic)
  | told (notice : Notice)
  | saved (path : Path)
deriving DecidableEq, Repr, Inhabited

/-- A surface: its open buffers, the diagnostics it shows, and what it was told, in order. -/
structure Surface where
  kind : SurfaceKind
  buffers : PathMap String
  shown : PathMap (List Diagnostic)
  events : List Event
deriving Repr, Inhabited

namespace Surface

/-- A surface with open buffers that was told nothing yet. -/
def start (kind : SurfaceKind) (buffers : PathMap String) : Surface :=
  ⟨kind, buffers, .empty, []⟩

/-- The buffer of a path. A terminal has none. -/
def bufferOf? (s : Surface) (p : Path) : Option String :=
  match s.kind with
  | .terminal => none
  | _ => s.buffers.get? p

/-- The surface with a text in the buffer of a path. -/
def edit (s : Surface) (p : Path) (text : String) : Surface :=
  { s with buffers := s.buffers.insert p text }

/-- The diagnostics that are shown for a path. -/
def shownFor (s : Surface) (p : Path) : List Diagnostic :=
  (s.shown.get? p).getD []

/-- The surface after something more was told. -/
def note (s : Surface) (e : Event) : Surface :=
  { s with events := s.events ++ [e] }

/-- Shows diagnostics for a path in the stead of those shown before. -/
def publish (s : Surface) (p : Path) (ds : List Diagnostic) : Surface :=
  if s.kind == .editor && !p.absolute then s
  else { s.note (.published p ds) with shown := s.shown.insert p ds }

/-- Shows a notice. -/
def tell (s : Surface) (n : Notice) : Surface :=
  s.note (.told n)

/-- Saves the buffer of a path. A file that cannot be read as text differs from every buffer. -/
def save (s : Surface) (disk : Disk) (p : Path) : Surface × Except OsError Disk :=
  match s.kind with
  | .recorder => (s.note (.saved p), .ok disk)
  | .terminal => (s, .ok disk)
  | .editor =>
    match s.buffers.get? p with
    | none => (s, .ok disk)
    | some text =>
      match disk.readText p with
      | .ok saved => if saved == text then (s, .ok disk) else (s, disk.write p text.toUTF8)
      | .error _ => (s, disk.write p text.toUTF8)

end Surface

/-- What a terminal writes about events, to standard output and to standard error. -/
def Terminal.output (colour : Bool) (events : List Event) : String × String :=
  let out := events.flatMap fun e =>
    match e with
    | .published p ds => ds.map fun d => diagnosticText colour p d ++ "\n"
    | _ => []
  let err := events.flatMap fun e =>
    match e with
    | .told n => [noticeText colour n.level n.text ++ "\n"]
    | _ => []
  (String.join out, String.join err)

end SqlxDryRun
