import SqlxDryRun.Disk

/-!
# Programs

Starting a program and waiting for its end. A program is found by its name among the installed ones;
a path leads to a file, and no file of a file tree can be run.
-/

namespace SqlxDryRun

/-- A program with its arguments and the directory in which it runs. -/
structure Call where
  program : String
  arguments : List String
  directory : Path
deriving DecidableEq, Repr, Inhabited

/-- What becomes of a call: the program cannot be started, it ends with a code or by a signal, or it
never ends. -/
inductive Ending where
  | refused (e : OsError)
  | exited (code : Option Int) (stdout stderr : ByteArray)
  | endless
deriving Inhabited

/-- A file tree with installed programs. A program is known by its name and first arguments. -/
structure Host where
  disk : Disk
  installed : List (List String × Ending)
deriving Inhabited

namespace Host

/-- The place at which a program would run. -/
def directoryOf (h : Host) (call : Call) : Except OsError (List String) := do
  let place ← h.disk.locate call.directory
  h.disk.enter place
  .ok place

/-- Whether a name is that of a directory in every directory, so also in those where programs are
looked for. -/
def isDirectoryName (name : String) : Bool :=
  name == "." || name == ".."

/-- The words of a call: its program, its arguments, and its directory. -/
def words (call : Call) : List String :=
  call.program :: call.directory.toString :: call.arguments

/-- What becomes of a call whose words are right, at a place. A program without a slash in its name
is looked for among the installed ones. -/
def startAt (h : Host) (place : List String) (call : Call) : Ending :=
  if call.program.contains '/' then
    match ({ h.disk with cwd := place } : Disk).find (Path.ofString call.program) with
    | .ok _ => .refused .permissionDenied
    | .error e => .refused e
  else if Disk.nameLimit < call.program.utf8ByteSize then .refused .nameTooLong
  else if isDirectoryName call.program then .refused .permissionDenied
  else
    match h.installed.find? fun entry => entry.1.isPrefixOf (call.program :: call.arguments) with
    | some entry => entry.2
    | none => .refused .notFound

/-- What becomes of a call. -/
def start (h : Host) (call : Call) : Ending :=
  if (words call).any fun w => w.contains '\x00' then .refused .nulInCall
  else
    match h.directoryOf call with
    | .error e => .refused e
    | .ok place => h.startAt place call

end Host

end SqlxDryRun
