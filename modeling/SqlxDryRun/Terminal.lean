import SqlxDryRun.Diagnostic
import SqlxDryRun.Path
import SqlxDryRun.Text.Ansi

/-!
# What a terminal shows

Diagnostics go to standard output, one to a line with an indented line for the suggestion. Notices
go to standard error, each behind a sign for its level.
-/

namespace SqlxDryRun

/-- How serious a notice is. -/
inductive Level where
  | info
  | warning
  | error
deriving DecidableEq, Repr, Inhabited

namespace Terminal

open Text.Ansi

/-- The name of a severity in a terminal, and its style. -/
def severityLabel : Severity → String × Style
  | .error => ("error", .strong .red)
  | .warn => ("warning", .strong .yellow)
  | .info => ("info", .strong .cyan)

/-- The text of a diagnostic of the file at a path. -/
def diagnosticText (colour : Bool) (path : Path) (d : Diagnostic) : String :=
  let (name, style) := severityLabel d.severity
  let line :=
    path.toString ++ ":" ++ d.range.start.text ++ ": " ++ paintIf colour style name ++ ": " ++
      d.message
  match d.suggestion with
  | none => line
  | some s =>
    line ++ "\n  " ++ paintIf colour (.plain .green) "help:" ++ " replace with \x60" ++ s ++ "\x60"

/-- The text of a notice. -/
def noticeText (colour : Bool) (level : Level) (text : String) : String :=
  match level with
  | .info => paintIf colour (.plain .green) "✓" ++ " " ++ text
  | .warning => paintIf colour (.plain .yellow) "⚠" ++ " " ++ paintIf colour (.plain .yellow) text
  | .error => paintIf colour (.plain .red) "✗" ++ " " ++ paintIf colour (.plain .red) text

end Terminal

end SqlxDryRun
