import SqlxDryRun.Process
import SqlxDryRun.Project.Format
import SqlxDryRun.Settings
import SqlxDryRun.Text.Blank
import SqlxDryRun.Text.Lines

/-!
# The compiler

The compiler is a program that prints the compiled project of a workspace. Main definitions:

* `Compiler.ofSettings`, `Compiler.call`: which program is started, and with which arguments;
* `classify`: what the end of the program means;
* `compile`: both together, within a time limit.
-/

namespace SqlxDryRun

/-- What the compiler adds to a query, and how wide its errors are shown. -/
structure QueryLayout where
  preambleLines : Int64
  highlightWidth : UInt32
deriving DecidableEq, Repr

/-- The layout of the standard compiler. -/
def QueryLayout.standard : QueryLayout := ⟨3, 5⟩

instance : Inhabited QueryLayout := ⟨.standard⟩

/-- Why there is no compiled project. -/
inductive CompileError where
  | refused (program : String) (e : OsError)
  | failed (code : Option Int) (detail : String)
  | malformed (p : Json.Problem)
  | timedOut (limit : Duration)
deriving DecidableEq, Repr

namespace CompileError

/-- What is wrong with a text that is no project. -/
def problemText : Json.Problem → String
  | .malformed => "it is not JSON"
  | .ended => "it ends too early"
  | .mismatch => "it holds a value of the wrong kind"

/-- The text of the error. -/
def message : CompileError → String
  | refused program e => "Failed to start compiler '" ++ program ++ "': " ++ e.message
  | failed code detail =>
    let shown :=
      match code with
      | some n => toString n
      | none => "unknown"
    "Compiler exited with code " ++ shown ++ ": " ++ detail
  | malformed p => "Compiler output is not a compiled project: " ++ problemText p
  | timedOut limit => "Compiler did not finish within " ++ limit.text

end CompileError

/-- The command that compiles a workspace, and the time it may take. -/
structure Compiler where
  program : String
  leadingArguments : List String
  timeout : Option Duration
deriving DecidableEq, Repr

namespace Compiler

/-- The standard compiler. -/
def standard : Compiler := ⟨"dataform", [], none⟩

/-- The compiler of some settings. The words of the executable are the program and its first
arguments; without a word it is the standard one. -/
def ofSettings (s : CompilerSettings) : Compiler :=
  match (s.executable.map Text.words).getD [] with
  | [] => { standard with timeout := s.timeout }
  | program :: arguments => ⟨program, arguments, s.timeout⟩

/-- The arguments that compile a workspace. -/
def arguments (c : Compiler) (workspace : Path) : List String :=
  c.leadingArguments ++ ["compile", workspace.toString, "--json"]

/-- The call that compiles a workspace, in the workspace. -/
def call (c : Compiler) (workspace : Path) : Call :=
  ⟨c.program, c.arguments workspace, workspace⟩

/-- What a failed compiler has to say: its standard error; if that is blank, the errors in the
project on its standard output; if there are none, its standard output. -/
def failureDetail (stdout stderr : String) : String :=
  if Text.trim stderr != "" then Text.trim stderr
  else
    match Project.ofText stdout with
    | .ok p =>
      if p.errorMessages.isEmpty then Text.trim stdout else Text.unlines p.errorMessages
    | .error _ => Text.trim stdout

/-- What the end of a compiler means. Code zero is success; a signal leaves no code. -/
def classify (code : Option Int) (stdout stderr : ByteArray) : Except CompileError Project :=
  let out := Text.Utf8.lenient stdout
  if code == some 0 then
    match Project.ofText out with
    | .ok p => .ok p
    | .error p => .error (.malformed p)
  else .error (.failed code (failureDetail out (Text.Utf8.lenient stderr)))

/-- Compiles a workspace. A program that starts takes some time, so it never meets a limit of zero.
-/
def compile (c : Compiler) (start : Call → Ending) (workspace : Path) :
    Except CompileError Project :=
  match start (c.call workspace), c.timeout with
  | .refused e, _ => .error (.refused c.program e)
  | .exited code stdout stderr, limit =>
    match limit with
    | some limit =>
      if limit.nanos == 0 then .error (.timedOut limit) else classify code stdout stderr
    | none => classify code stdout stderr
  | .endless, limit => .error (.timedOut (limit.getD ⟨0⟩))

end Compiler

end SqlxDryRun
