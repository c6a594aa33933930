import SqlxDryRun.Disk
import SqlxDryRun.Duration
import SqlxDryRun.Toml.Document

/-!
# Settings

The settings of a workspace come from a TOML file at its root. Everything in it may be left out, and
what the library does not know is ignored. The settings of the compiler and of the service are
tables; each may also be an array with its values in order, and a date or a time counts as a table
in which nothing is set.
-/

namespace SqlxDryRun

/-- How the compiler is started. -/
structure CompilerSettings where
  executable : Option String
  timeoutSeconds : Option UInt64
deriving DecidableEq, Repr, Inhabited

/-- How queries are validated. -/
structure ServiceSettings where
  projectId : Option String
  location : Option String
  serviceAccountKey : Option String
  timeoutSeconds : Option UInt64
deriving DecidableEq, Repr, Inhabited

/-- The settings of a workspace. -/
structure Settings where
  preambleLines : Option Int64
  highlightWidth : Option UInt32
  saveFirst : Bool
  keepQuery : Bool
  queryPath : Option Path
  compiler : CompilerSettings
  service : ServiceSettings
deriving DecidableEq, Repr

/-- What the settings need to know about the process that uses them. -/
structure Environment where
  /-- The value of `GOOGLE_CLOUD_PROJECT`. -/
  project : Option String
  temporary : Path
deriving DecidableEq, Repr

/-- Why there are no settings. -/
inductive SettingsError where
  | unreadable (e : OsError)
  | malformed
deriving DecidableEq, Repr, Inhabited

namespace SettingsError

/-- The text of the problem. -/
def message : SettingsError → String
  | unreadable e => "IO error: " ++ e.message
  | malformed => "Parse error: the settings are not as they should be"

end SettingsError

/-- The duration of a setting in seconds. -/
def secondsOf (seconds : Option UInt64) : Option Duration :=
  seconds.map fun n => Duration.ofSeconds n.toNat

namespace Settings

open Toml (Value Entries)

/-- The settings where nothing is set. -/
def default : Settings where
  preambleLines := none
  highlightWidth := none
  saveFirst := true
  keepQuery := false
  queryPath := none
  compiler := ⟨none, none⟩
  service := ⟨none, none, none, none⟩

instance : Inhabited Settings := ⟨default⟩

/-- A setting that is left out or has a value of the right kind. -/
def setting? (read : Value → Option α) : Option Value → Option (Option α)
  | none => some none
  | some v => (read v).map some

/-- A text. -/
def string? : Value → Option String
  | .string s => some s
  | _ => none

/-- A truth value. -/
def bool? : Value → Option Bool
  | .boolean b => some b
  | _ => none

/-- A 64-bit integer. -/
def int64? : Value → Option Int64
  | .integer n => some (Int64.ofInt n)
  | _ => none

/-- An integer below a limit and not below zero. -/
def natural? (limit : Nat) : Value → Option Nat
  | .integer n => if 0 ≤ n ∧ n < limit then some n.toNat else none
  | _ => none

/-- A natural number of 32 bits. -/
def uint32? (v : Value) : Option UInt32 :=
  (natural? UInt32.size v).map UInt32.ofNat

/-- A natural number of 64 bits. -/
def uint64? (v : Value) : Option UInt64 :=
  (natural? UInt64.size v).map UInt64.ofNat

/-- The values of the given keys in a table, or of as many items of an array. A date or a time is a
table without any of the keys. -/
def group? (keys : List String) : Option Value → Option (List (Option Value))
  | none => some (keys.map fun _ => none)
  | some (.table _ entries) => some (keys.map fun key => entries.lookup key)
  | some (.array items) => some ((List.range keys.length).map fun i => items[i]?)
  | some .moment => some (keys.map fun _ => none)
  | some _ => none

/-- The settings of the compiler. -/
def readCompiler (v : Option Value) : Option CompilerSettings := do
  match ← group? ["executable", "timeout_secs"] v with
  | [executable, timeout] =>
    some ⟨← setting? string? executable, ← setting? uint64? timeout⟩
  | _ => none

/-- The settings of the service. -/
def readService (v : Option Value) : Option ServiceSettings := do
  match ← group? ["project_id", "location", "service_account_key", "timeout_secs"] v with
  | [project, location, key, timeout] =>
    some ⟨← setting? string? project, ← setting? string? location, ← setting? string? key,
      ← setting? uint64? timeout⟩
  | _ => none

/-- The settings in the entries of a document. -/
def ofEntries (entries : Entries) : Option Settings := do
  let get (key : String) : Option Value := entries.lookup key
  some {
    preambleLines := ← setting? int64? (get "query_string_offset")
    highlightWidth := ← setting? uint32? (get "highlight_width")
    saveFirst := (← setting? bool? (get "save_before_dry_run")).getD true
    keepQuery := (← setting? bool? (get "show_compiled_query")).getD false
    queryPath := (← setting? string? (get "compiled_sql_path")).map Path.ofString
    compiler := ← readCompiler (get "compiler")
    service := ← readService (get "dry_run") }

/-- The settings that a text holds. -/
def ofText (text : String) : Except SettingsError Settings :=
  match (Toml.read? text).bind ofEntries with
  | some s => .ok s
  | none => .error .malformed

/-- The settings in a file. -/
def load (d : Disk) (p : Path) : Except SettingsError Settings :=
  match d.readText p with
  | .ok text => ofText text
  | .error e => .error (.unreadable e)

/-- The name of the settings file at the root of a workspace. -/
def fileName : String := "dataform-lsp.toml"

/-- The settings of a workspace: those of its settings file, or the default if there is none. -/
def discover (d : Disk) (root : Path) : Except SettingsError Settings :=
  if d.exists? (root.child fileName) then load d (root.child fileName) else .ok default

/-- Where the compiled query is kept. -/
def queryFile (s : Settings) (env : Environment) : Path :=
  s.queryPath.getD (env.temporary.child "output.sql")

end Settings

namespace CompilerSettings

/-- How long the compiler may take. -/
def timeout (s : CompilerSettings) : Option Duration := secondsOf s.timeoutSeconds

end CompilerSettings

namespace ServiceSettings

/-- How long the service may take. -/
def timeout (s : ServiceSettings) : Option Duration := secondsOf s.timeoutSeconds

/-- The project that pays for validation: the one that is set, else the one of the environment. A
blank name counts as none. -/
def resolvedProject (s : ServiceSettings) (env : Environment) : Option String :=
  (s.projectId.or env.project).filter (· != "")

end ServiceSettings

end SqlxDryRun
