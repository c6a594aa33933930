import SqlxDryRun.Cli.Arguments
import SqlxDryRun.Cli.Report
import SqlxDryRun.Compiler
import SqlxDryRun.EnvFile
import SqlxDryRun.Project.Lookup
import SqlxDryRun.SourceFile
import SqlxDryRun.Text.Ansi
import SqlxDryRun.Validation.Connection
import SqlxDryRun.Workspace

/-!
# Running tasks

What a request does: the texts it prints, the files it changes, the programs it calls, and the code
with which it ends. A failure is reported on standard error and ends with code one.

Main definitions:

* `perform`: what a task does once the workspace and the settings are found;
* `runRequest`, `runWords`: what a request and what the words of a command line do.
-/

namespace SqlxDryRun.Cli

open Text.Ansi

/-- What a task has done so far. -/
structure Effects where
  code : Nat
  stdout : String
  stderr : String
  disk : Disk
  calls : List Call
deriving Inhabited

namespace Effects

/-- Nothing done. -/
def start (disk : Disk) : Effects := ⟨0, "", "", disk, []⟩

/-- One more line on standard output. -/
def print (e : Effects) (line : String) : Effects := { e with stdout := e.stdout ++ line ++ "\n" }

/-- One more line on standard error. -/
def warn (e : Effects) (line : String) : Effects := { e with stderr := e.stderr ++ line ++ "\n" }

/-- The end of a task that failed. -/
def fail (e : Effects) (f : Failure) : Effects := { e.warn f.text with code := 1 }

end Effects

/-- What a task has at hand: files and programs, the environment, whether texts are coloured, and
standard input. -/
structure Surroundings where
  host : Host
  environment : Environment
  colour : Bool
  stdin : ByteArray

namespace Surroundings

/-- The working directory. -/
def cwd (s : Surroundings) : Path := ⟨true, s.host.disk.cwd⟩

/-- The workspace of a request: the one that is named, else the nearest one at or above the file or
the working directory, else the working directory. -/
def workspaceOf (s : Surroundings) (r : Request) : Path :=
  match r.workspace with
  | some w => s.cwd.join w
  | none =>
    let start := (r.task.file?.map s.cwd.join).getD s.cwd
    (Workspace.rootOf? s.host.disk start).getD s.cwd

/-- The settings of a request: those of the file that is named, else those of the workspace. -/
def settingsOf (s : Surroundings) (r : Request) (workspace : Path) : Except Failure Settings :=
  match r.settings with
  | some file =>
    match Settings.load s.host.disk file with
    | .ok settings => .ok settings
    | .error e => .error ⟨"Failed to load config from " ++ file.toString, [e.message]⟩
  | none =>
    match Settings.discover s.host.disk workspace with
    | .ok settings => .ok settings
    | .error e =>
      .error ⟨"Failed to load " ++ (workspace.child Settings.fileName).toString, [e.message]⟩

end Surroundings

/-! ## Tasks -/

/-- The failure of a compilation. A program that could not be started has a further cause. -/
def compileFailure (workspace : Path) (e : CompileError) : Failure :=
  let further :=
    match e with
    | .refused _ cause => [cause.message]
    | _ => []
  ⟨"Failed to compile " ++ workspace.toString, e.message :: further⟩

/-- Compiles a workspace and goes on with the project. -/
def withProject (s : Surroundings) (settings : Settings) (workspace : Path) (e : Effects)
    (go : Project → Effects → Effects) : Effects :=
  let compiler := Compiler.ofSettings settings.compiler
  let e := { e with calls := e.calls ++ [compiler.call workspace] }
  match compiler.compile s.host.start workspace with
  | .ok p => go p e
  | .error cause => e.fail (compileFailure workspace cause)

/-- A line of equals signs. -/
def rule : String := String.ofList (List.replicate 60 '=')

/-- The lines that summarise a project. -/
def summary (colour : Bool) (p : Project) : List String :=
  let paint := paintIf colour
  let bold := paint ⟨true, none⟩
  let count (label : String) (n : Nat) := bold label ++ " " ++ toString n
  let names (label : String) (ns : List String) : List String :=
    if ns.isEmpty then [] else [bold label ++ " " ++ String.intercalate ", " ns]
  let errors :=
    if p.errorMessages.isEmpty then [paint (.plain .green) "✓ No compilation errors"]
    else
      paint (.strong .red) "Compilation errors:" ::
        p.errorMessages.map fun m => "  " ++ paint (.plain .red) "✗" ++ " " ++ m
  [paint (.strong .brightBlue) "Dataform Compilation Summary", paint (.plain .brightBlue) rule,
    count "Tables:" p.tables.length, count "Assertions:" p.assertions.length,
    count "Operations:" p.operations.length, count "Declarations:" p.declarations.length] ++
    names "Tags:" p.tags ++ names "Targets:" p.dependencies ++ errors ++
    [paint (.plain .brightBlue) rule]

/-- Prints the query of a source file, or writes it to a file. -/
def giveQuery (s : Surroundings) (output : Option Path) (q : Project.SourceQuery) (e : Effects) :
    Effects :=
  match output with
  | none => e.print q.query
  | some file =>
    match e.disk.write file q.query.toUTF8 with
    | .ok disk =>
      { e with disk := disk }.warn
        (paintIf s.colour (.plain .green) "Query saved to:" ++ " " ++ file.toString ++ " (" ++
          q.target.text ++ ")")
    | .error cause => e.fail ⟨"Failed to write " ++ file.toString, [cause.message]⟩

/-- The text of a cost report: a file, or standard input. -/
def reportText (s : Surroundings) (report : Path) : Except Failure String :=
  if report.same (Path.ofString "-") then
    match Text.Utf8.strict? s.stdin with
    | some text => .ok text
    | none => .error ⟨"Failed to read cost output from stdin", [OsError.notUtf8.message]⟩
  else
    match s.host.disk.readText report with
    | .ok text => .ok text
    | .error e => .error ⟨"Failed to read " ++ report.toString, [e.message]⟩

/-- What a task does. -/
def perform (s : Surroundings) (settings : Settings) (workspace : Path) (e : Effects) :
    Task → Effects
  | .dryRun _ _ =>
    e.fail ⟨"Failed to create dry-run client",
      [(settings.service.connectFailure s.environment).message]⟩
  | .compile =>
    withProject s settings workspace e fun p e =>
      let e := (summary s.colour p).foldl Effects.print e
      if p.errorMessages.isEmpty then e else { e with code := 1 }
  | .query file output =>
    match logicalName? (s.cwd.join file) with
    | none => e.fail (.plain ((s.cwd.join file).toString ++ " is not a .sqlx file"))
    | some name =>
      withProject s settings workspace e fun p e =>
        let q := p.queryFor name
        if q.isFound then giveQuery s output q e
        else e.fail (.plain ("Query for " ++ name ++ " not found in compiled json"))
  | .runTag tag scope => e.print (Command.runTag workspace tag scope)
  | .runReported report scope =>
    match reportText s report with
    | .error f => e.fail f
    | .ok text =>
      match Command.runReported workspace text scope with
      | .error p => e.fail ⟨"Cost output is not JSON lines", [CompileError.problemText p]⟩
      | .ok none => e.warn (paintIf s.colour (.plain .yellow) "Nothing to run")
      | .ok (some line) => e.print line
  | .pipelines file =>
    match logicalName? (s.cwd.join file) with
    | none => e.fail (.plain "Not a .sqlx file")
    | some name =>
      (e.print (Command.dryRun workspace name)).print (Command.compiledQuery workspace name)
  | .format file =>
    let whole := s.cwd.join file
    e.print (Command.format ((whole.under? workspace).getD whole))

/-- What a request does. -/
def runRequest (s : Surroundings) (r : Request) : Effects :=
  let e := Effects.start s.host.disk
  let workspace := s.workspaceOf r
  match s.settingsOf r workspace with
  | .error f => e.fail f
  | .ok settings =>
    let e :=
      if r.verbose then
        e.warn (paintIf s.colour (.plain .cyan) "Workspace:" ++ " " ++ workspace.toString)
      else e
    perform s settings workspace e r.task

/-- The variable that names the project to charge. -/
def projectVariable : String := "GOOGLE_CLOUD_PROJECT"

/-- The variable that asks for colours wherever texts go. Only the value zero asks for none. -/
def colourVariable : String := "CLICOLOR_FORCE"

/-- What is at hand after the nearest environment file was read. What is set already stays. -/
def Surroundings.withEnvFile (s : Surroundings) : Surroundings :=
  let known :=
    (s.environment.project.map fun v => (projectVariable, v)).toList ++
      if s.colour then [(colourVariable, "1")] else []
  let found := EnvFile.discover s.host.disk s.cwd known
  { s with
    environment := { s.environment with project := found.lookup projectVariable }
    colour := (found.lookup colourVariable).any (· != "0") }

/-- The line that tells the version of the program. -/
def versionText : String := "dataform-tools 0.1.0"

/-- What the words of a command line do, unless they ask for no task. -/
def runWords (s : Surroundings) (words : List String) : Except Stop Effects :=
  (Request.ofWords words).map (runRequest s.withEnvFile)

end SqlxDryRun.Cli
