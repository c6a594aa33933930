import SqlxDryRun.Path
import SqlxDryRun.Project.Basic

/-!
# Looking things up in a compiled project

A source file is tied to what was compiled from it by its base name. Main definitions:

* `queryFor`: the first table or assertion compiled from a file of a given base name;
* `tags`, `dependencies`: what an editor offers for completion, each entry once, in the order of its
  first occurrence.
-/

namespace SqlxDryRun.Project

/-- The base name of a compiled file: its file name up to the first dot. A text without a file name,
such as `..`, is taken as a whole. -/
def baseName (fileName : String) : String :=
  let name := ((Path.ofString fileName).fileName?).getD fileName
  String.ofList (name.toList.takeWhile (· != '.'))

/-- What dry runs need to know of a table or an assertion. -/
structure Action where
  fileName : String
  query : String
  tags : List String
  target : Target
deriving DecidableEq, Repr

/-- The tables and then the assertions of a project. -/
def actions (p : Project) : List Action :=
  p.tables.map (fun t => ⟨t.fileName, t.query, t.tags, t.target⟩) ++
    p.assertions.map fun a => ⟨a.fileName, a.query, a.tags, a.target⟩

/-- The query of a source file, with the name by which it was looked up. -/
structure SourceQuery where
  tags : List String
  fileName : String
  query : String
  target : Target
deriving DecidableEq, Repr

namespace SourceQuery

/-- What a look-up without a result gives. -/
def notFound : SourceQuery := ⟨[], "", "", default⟩

/-- Whether there is a query. -/
def isFound (q : SourceQuery) : Bool :=
  q.query != ""

end SourceQuery

/-- The query of the first table or assertion that was compiled from a file with the given base
name. -/
def queryFor (p : Project) (name : String) : SourceQuery :=
  match p.actions.find? fun a => baseName a.fileName == name with
  | some a => ⟨a.tags, name, a.query, a.target⟩
  | none => .notFound

/-- The entries of a list that do not occur in `seen` or earlier in the list. -/
def firstOccurrences (seen : List String) : List String → List String
  | [] => []
  | s :: rest =>
    if seen.contains s then firstOccurrences seen rest
    else s :: firstOccurrences (s :: seen) rest

/-- The tags of all tables and then of all assertions, each once. -/
def tags (p : Project) : List String :=
  firstOccurrences [] (p.tables.flatMap Table.tags ++ p.assertions.flatMap Assertion.tags)

/-- The names of all targets and then of all declarations, each once. -/
def dependencies (p : Project) : List String :=
  firstOccurrences []
    (p.targets.map Target.name ++ p.declarations.map fun d => d.target.name)

end SqlxDryRun.Project
