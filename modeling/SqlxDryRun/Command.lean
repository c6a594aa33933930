import SqlxDryRun.Json.Decoder
import SqlxDryRun.Path
import SqlxDryRun.Text.Blank
import SqlxDryRun.Text.Lines

/-!
# Command lines

Texts that a user runs in a terminal. Nothing here runs them.

Main definitions:

* `Scope`: which further actions a run includes;
* `runTag`, `runActions`, `dryRun`, `compiledQuery`, `format`: the command lines;
* `CostLine`, `CostLine.ofOutput`: the lines of a cost report, from which `runReported` makes one.
-/

namespace SqlxDryRun.Command

/-- Which further actions a run includes. -/
inductive Scope where
  | selected
  | withDependencies
  | withDependents
deriving DecidableEq, Repr, Inhabited

namespace Scope

/-- The flag that asks for a scope. -/
def flag? : Scope → Option String
  | selected => none
  | withDependencies => some "--include-deps"
  | withDependents => some "--include-dependents"

end Scope

/-- A command line with the flag of a scope at its end. -/
def withScope (line : String) (scope : Scope) : String :=
  match scope.flag? with
  | none => line
  | some flag => line ++ " " ++ flag

/-- The command line that estimates the cost of a source file. -/
def dryRun (workspace : Path) (name : String) : String :=
  "dataform compile " ++ workspace.toString ++
    " --json | dj table-ops cost --compact=true --include-assertions=true --file " ++ name

/-- The command line that prints the compiled query of a source file. -/
def compiledQuery (workspace : Path) (name : String) : String :=
  "dataform compile " ++ workspace.toString ++ " --json | dj table-ops query --file " ++ name

/-- The command line that runs everything with a tag. -/
def runTag (workspace : Path) (tag : String) (scope : Scope) : String :=
  withScope ("dataform run " ++ workspace.toString ++ " --tags=" ++ tag) scope

/-- The command line that formats a file. -/
def format (file : Path) : String :=
  "formatdataform format " ++ file.toString

/-- The command line that runs the given actions, if there are any. -/
def runActions (workspace : Path) (actions : List String) (scope : Scope) : Option String :=
  if actions.isEmpty then none
  else
    let options := actions.map fun a => " --actions \"" ++ a ++ "\""
    some (withScope ("dataform run " ++ workspace.toString ++ String.join options) scope)

/-- One line of a cost report. -/
structure CostLine where
  database : String
  schema : String
  fileName : String
deriving DecidableEq, Repr

namespace CostLine

/-- The fields of a cost line, all of which are needed. -/
def layout : Json.Layout CostLine where
  fields := [
    .needed "Database" Json.string fun c s => { c with database := s },
    .needed "Schema" Json.string fun c s => { c with schema := s },
    .needed "FileName" Json.string fun c s => { c with fileName := s }]
  default := ⟨"", "", ""⟩
  mayBeShort := false

/-- The name of the action of a cost line. -/
def actionName (c : CostLine) : String :=
  c.database ++ "." ++ c.schema ++ "." ++ c.fileName

/-- The cost lines of a report: one on each line that is not blank. The first line that is none
decides the problem. -/
def ofOutput (output : String) : Json.Decoded (List CostLine) :=
  ((Text.lines output).filter fun line => !Text.isBlankText line).mapM
    (Json.decodeText layout.decode)

end CostLine

/-- The command line that runs the actions of a cost report, if it has any. -/
def runReported (workspace : Path) (output : String) (scope : Scope) :
    Json.Decoded (Option String) := do
  let lines ← CostLine.ofOutput output
  .ok (runActions workspace (lines.map CostLine.actionName) scope)

end SqlxDryRun.Command
