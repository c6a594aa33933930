import SqlxDryRun.OsError
import SqlxDryRun.Path
import SqlxDryRun.Text.Utf8

/-!
# File trees

A file tree holds files and directories under absolute names; it has no links. A path is followed
name by name from the working directory or from the root, and `..` leads to the directory above.
An operation is refused only because of its path, or because of bytes that are no text: there are no
permissions, and there is room for every file.

Main definitions:

* `Disk.locate`: where a path leads;
* `Disk.exists?`, `Disk.readText`, `Disk.write`: the operations that the rest of the library uses.
-/

namespace SqlxDryRun

/-- What is found under a name. -/
inductive Node where
  | file (content : ByteArray)
  | directory
deriving Inhabited

/-- A file tree and the directory in which relative paths begin. The root is always a directory. -/
structure Disk where
  nodes : List (List String × Node)
  cwd : List String
deriving Inhabited

namespace Disk

/-- What is found at an absolute place. -/
def node? (d : Disk) (place : List String) : Option Node :=
  if place.isEmpty then some .directory else (d.nodes.find? fun n => n.1 == place).map Prod.snd

/-- Whether a place can be entered. -/
def enter (d : Disk) (place : List String) : Except OsError Unit :=
  match d.node? place with
  | some .directory => .ok ()
  | some (.file _) => .error .notADirectory
  | none => .error .notFound

/-- The number of bytes that a name may have. -/
def nameLimit : Nat := 255

/-- The place reached from `place` by following segments. Every place on the way, but not the last
one, must be a directory; a segment that says nothing stays where it is. -/
def follow (d : Disk) (place : List String) : List String → Except OsError (List String)
  | [] => .ok place
  | segment :: rest => do
    d.enter place
    if segment == ".." then d.follow place.dropLast rest
    else if Path.isIdle segment then d.follow place rest
    else if nameLimit < segment.utf8ByteSize then .error .nameTooLong
    else d.follow (place ++ [segment]) rest

/-- The number of bytes that no written path reaches. -/
def pathLimit : Nat := 4096

/-- Whether a path is one that may lead somewhere, as far as its written form tells. -/
def checkPath (p : Path) : Except OsError Unit :=
  if p.segments.any fun s => s.contains '\x00' then .error .nulInName
  else if p == Path.empty then .error .notFound
  else if pathLimit ≤ p.toString.utf8ByteSize then .error .nameTooLong
  else .ok ()

/-- Where a path leads. The empty path leads nowhere. -/
def locate (d : Disk) (p : Path) : Except OsError (List String) := do
  checkPath p
  d.follow (if p.absolute then [] else d.cwd) p.segments

/-- What is found at the end of a path. -/
def find (d : Disk) (p : Path) : Except OsError Node := do
  match d.node? (← d.locate p) with
  | some node => .ok node
  | none => .error .notFound

/-- Whether something is found at the end of a path. -/
def exists? (d : Disk) (p : Path) : Bool :=
  (d.find p).isOk

/-- The bytes of the file at the end of a path. -/
def readBytes (d : Disk) (p : Path) : Except OsError ByteArray := do
  match ← d.find p with
  | .file content => .ok content
  | .directory => .error .isADirectory

/-- The text of the file at the end of a path. -/
def readText (d : Disk) (p : Path) : Except OsError String := do
  match Text.Utf8.strict? (← d.readBytes p) with
  | some text => .ok text
  | none => .error .notUtf8

/-- The tree with a node put at a place, in the stead of what was there. -/
def put (d : Disk) (place : List String) (node : Node) : Disk :=
  { d with nodes := (place, node) :: d.nodes.filter fun n => n.1 != place }

/-- The tree with a file and all directories above it. -/
def putWithParents (d : Disk) (place : List String) (node : Node) : Disk :=
  let above := (List.range place.length).map place.take
  let made := above.foldl (fun d p => if (d.node? p).isSome then d else d.put p .directory) d
  made.put place node

/-- The tree without what is at a place and below it. -/
def remove (d : Disk) (place : List String) : Disk :=
  { d with nodes := d.nodes.filter fun n => !place.isPrefixOf n.1 }

/-- The tree after a file was written: made if it is missing, replaced if it is there. A path that
ends in a slash names a directory. -/
def write (d : Disk) (p : Path) (content : ByteArray) : Except OsError Disk := do
  checkPath p
  let named := (p.segments.reverse.dropWhile (· == "")).reverse
  let place ← d.follow (if p.absolute then [] else d.cwd) named
  if named.length < p.segments.length then .error .isADirectory
  else
    match d.node? place with
    | some .directory => .error .isADirectory
    | _ => .ok (d.put place (.file content))

end Disk

end SqlxDryRun
