import SqlxDryRun.Cli.Run

/-!
# The command line program

Loads the files that a request may look at, lets the request run on them, and prints what it prints.
No program is installed for it, so a compiler cannot be started from here.
-/

namespace SqlxDryRun.Main

/-- The files and directories that a request may look at, for a working directory. -/
def candidates (cwd : Path) (r : Cli.Request) : List Path :=
  let file := (r.task.file?.map cwd.join).toList
  let workspace := (r.workspace.map cwd.join).toList
  let above := (cwd :: file ++ workspace).flatMap Path.ancestors
  let names := ".env" :: Settings.fileName :: Workspace.signatureFiles
  let report :=
    match r.task with
    | .runReported report _ => [cwd.join report]
    | _ => []
  above ++ above.flatMap (fun p => names.map p.child) ++ (r.settings.map cwd.join).toList ++ report

/-- The tree with what is found at an absolute path. -/
def loadInto (d : Disk) (p : Path) : IO Disk := do
  let place := (← IO.currentDir) / p.toString
  match d.locate p with
  | .error _ =>
    if ← place.isDir then return d.putWithParents p.names .directory
    else if ← place.pathExists then
      return d.putWithParents p.names (.file (← IO.FS.readBinFile place))
    else return d
  | .ok names =>
    if (d.node? names).isSome then return d
    else if ← place.isDir then return d.put names .directory
    else if ← place.pathExists then return d.put names (.file (← IO.FS.readBinFile place))
    else return d

/-- All bytes of a stream behind those read already. -/
partial def readAll (stream : IO.FS.Stream) (done : ByteArray) : IO ByteArray := do
  let more ← stream.read 65536
  if more.isEmpty then return done else readAll stream (done ++ more)

/-- Whether a request reads standard input. -/
def readsInput (r : Cli.Request) : Bool :=
  match r.task with
  | .runReported report _ => report.same (Path.ofString "-")
  | _ => false

/-- Whether texts are coloured: if that is forced, or on a terminal unless colours are unwanted. -/
def wantsColour : IO Bool := do
  let forced := (← IO.getEnv Cli.colourVariable).any (· != "0")
  let unwanted := (← IO.getEnv "NO_COLOR").isSome || (← IO.getEnv "CLICOLOR") == some "0"
  return forced || (!unwanted && (← (← IO.getStdout).isTty))

/-- Runs the words of a command line. -/
def run (words : List String) : IO UInt32 := do
  match Cli.Request.ofWords words with
  | .error .help =>
    IO.println "Tasks: dry-run, compile, query, run-tag, run-file, pipelines, format"
    return 0
  | .error .version =>
    IO.println Cli.versionText
    return 0
  | .error .misuse =>
    IO.eprintln "error: this is no request; try --help"
    return 2
  | .ok r =>
    let cwd := Path.ofString (← IO.currentDir).toString
    let disk ← (candidates cwd r).foldlM loadInto ⟨[], cwd.names⟩
    let project ← IO.getEnv Cli.projectVariable
    let stdin ← if readsInput r then readAll (← IO.getStdin) .empty else pure .empty
    let surroundings : Cli.Surroundings :=
      ⟨⟨disk, []⟩, ⟨project, Path.ofString "/tmp"⟩, ← wantsColour, stdin⟩
    let effects := Cli.runRequest surroundings.withEnvFile r
    IO.print effects.stdout
    IO.eprint effects.stderr
    return UInt32.ofNat effects.code

end SqlxDryRun.Main

/-- Runs the command line. -/
def main (words : List String) : IO UInt32 :=
  SqlxDryRun.Main.run words
