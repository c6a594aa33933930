import SqlxDryRun.Path
import SqlxDryRun.Text.Lines

/-!
# Source files and documents

A source file of a workspace is recognised by its name: `orders.sqlx` defines `orders`. The part of
the name up to the first dot is its stem, and the part between the first two dots is what its kind
is told by.
-/

namespace SqlxDryRun

/-- The kinds of files that hold a query. -/
def sourceExtensions : List String :=
  ["sqlx"]

/-- The stem and the kind of a file name: its first two parts between dots. -/
def stemAndKind? (name : String) : Option (String × String) :=
  match Text.splitAt '.' name.toList with
  | stem :: kind :: _ => some (String.ofList stem, String.ofList kind)
  | _ => none

/-- The logical name of a source file, and nothing for any other file. -/
def logicalName? (p : Path) : Option String :=
  match p.fileName?.bind stemAndKind? with
  | some (stem, kind) => if stem != "" && sourceExtensions.contains kind then some stem else none
  | none => none

/-- A source file together with its text. -/
structure Document where
  path : Path
  text : String
deriving DecidableEq, Repr, Inhabited

namespace Document

/-- The lines of the text. -/
def lines (d : Document) : List String :=
  Text.lines d.text

/-- The logical name of the document's file. -/
def logicalName? (d : Document) : Option String :=
  SqlxDryRun.logicalName? d.path

end Document

end SqlxDryRun
