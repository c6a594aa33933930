/-!
# Compiled projects

The part of a compiled project that dry runs need: tables, assertions, operations and declarations
with their targets, and the errors that the compiler found.
-/

namespace SqlxDryRun.Project

/-- The name of an object in the warehouse. -/
structure Target where
  database : String
  schema : String
  name : String
deriving DecidableEq, Repr

instance : Inhabited Target := ⟨⟨"", "", ""⟩⟩

/-- The three parts of a target, joined by dots. -/
def Target.text (t : Target) : String :=
  t.database ++ "." ++ t.schema ++ "." ++ t.name

/-- A table, view or incremental table. -/
structure Table where
  target : Target
  query : String
  fileName : String
  tags : List String
  kind : Option String
  incrementalQuery : Option String
  preOps : List String
  postOps : List String
  dependencyTargets : List Target
deriving DecidableEq, Repr

/-- A query whose rows are failures. -/
structure Assertion where
  target : Target
  query : String
  fileName : String
  tags : List String
deriving DecidableEq, Repr

/-- A sequence of statements. -/
structure Operation where
  target : Target
  queries : List String
  fileName : String
  tags : List String
deriving DecidableEq, Repr

/-- An object of the warehouse that the project only refers to. -/
structure Declaration where
  target : Target
  fileName : String
deriving DecidableEq, Repr

/-- An error that the compiler found in a file. -/
structure CompilationError where
  fileName : String
  message : String
deriving DecidableEq, Repr

/-- The errors of a project. -/
structure GraphErrors where
  compilationErrors : List CompilationError
deriving DecidableEq, Repr

end SqlxDryRun.Project

namespace SqlxDryRun

/-- A compiled project. -/
structure Project where
  tables : List Project.Table
  assertions : List Project.Assertion
  operations : List Project.Operation
  declarations : List Project.Declaration
  targets : List Project.Target
  graphErrors : Project.GraphErrors
deriving DecidableEq, Repr

namespace Project

instance : Inhabited Table := ⟨⟨default, "", "", [], none, none, [], [], []⟩⟩
instance : Inhabited Assertion := ⟨⟨default, "", "", []⟩⟩
instance : Inhabited Operation := ⟨⟨default, [], "", []⟩⟩
instance : Inhabited Declaration := ⟨⟨default, ""⟩⟩
instance : Inhabited CompilationError := ⟨⟨"", ""⟩⟩
instance : Inhabited GraphErrors := ⟨⟨[]⟩⟩
instance : Inhabited Project := ⟨⟨[], [], [], [], [], default⟩⟩

/-- The compiler's errors as `file: message`, in order. -/
def errorMessages (p : Project) : List String :=
  p.graphErrors.compilationErrors.map fun e => e.fileName ++ ": " ++ e.message

end Project

end SqlxDryRun
