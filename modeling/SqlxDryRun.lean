import SqlxDryRun.Binary64
import SqlxDryRun.Cli.Arguments
import SqlxDryRun.Cli.Report
import SqlxDryRun.Cli.Run
import SqlxDryRun.Command
import SqlxDryRun.Compiler
import SqlxDryRun.ConfigBlock
import SqlxDryRun.Diagnostic
import SqlxDryRun.Diagnostic.Format
import SqlxDryRun.Disk
import SqlxDryRun.DryRun.Basic
import SqlxDryRun.DryRun.Schedule
import SqlxDryRun.DryRun.Stage
import SqlxDryRun.Duration
import SqlxDryRun.Editor.Capabilities
import SqlxDryRun.Editor.Cursor
import SqlxDryRun.Editor.Message
import SqlxDryRun.Editor.Method
import SqlxDryRun.Editor.Notification
import SqlxDryRun.Editor.QuickFix
import SqlxDryRun.Editor.Remark
import SqlxDryRun.Editor.Server
import SqlxDryRun.Editor.Shape
import SqlxDryRun.Editor.Unserved
import SqlxDryRun.EnvFile
import SqlxDryRun.Json.Decoder
import SqlxDryRun.Json.Reader
import SqlxDryRun.Json.Value
import SqlxDryRun.Json.Writer
import SqlxDryRun.LineShift
import SqlxDryRun.Locks
import SqlxDryRun.Main
import SqlxDryRun.OsError
import SqlxDryRun.Path
import SqlxDryRun.PathMap
import SqlxDryRun.Position
import SqlxDryRun.Process
import SqlxDryRun.Project.Basic
import SqlxDryRun.Project.Format
import SqlxDryRun.Project.Lookup
import SqlxDryRun.Proofs.Binary64
import SqlxDryRun.Proofs.Command.Report
import SqlxDryRun.Proofs.Command.Shell
import SqlxDryRun.Proofs.Command.Words
import SqlxDryRun.Proofs.Compiler
import SqlxDryRun.Proofs.ConfigBlock
import SqlxDryRun.Proofs.ConfigBlock.Lead
import SqlxDryRun.Proofs.ConfigBlock.Matches
import SqlxDryRun.Proofs.ConfigBlock.Reference
import SqlxDryRun.Proofs.ConfigBlock.Token
import SqlxDryRun.Proofs.Disk
import SqlxDryRun.Proofs.Disk.Ways
import SqlxDryRun.Proofs.DryRun.EarlyEnd
import SqlxDryRun.Proofs.DryRun.Interleaving
import SqlxDryRun.Proofs.DryRun.Ledger
import SqlxDryRun.Proofs.DryRun.LoneRun
import SqlxDryRun.Proofs.DryRun.Offers
import SqlxDryRun.Proofs.DryRun.OwnQuery
import SqlxDryRun.Proofs.DryRun.Phases
import SqlxDryRun.Proofs.DryRun.SameText
import SqlxDryRun.Proofs.DryRun.Shown
import SqlxDryRun.Proofs.Editor.Columns
import SqlxDryRun.Proofs.Editor.Completion
import SqlxDryRun.Proofs.Editor.Documents
import SqlxDryRun.Proofs.Editor.ErrorLine
import SqlxDryRun.Proofs.Editor.Fixes
import SqlxDryRun.Proofs.Editor.Identifier
import SqlxDryRun.Proofs.Json.Edits
import SqlxDryRun.Proofs.Json.Parts
import SqlxDryRun.Proofs.Json.Reading
import SqlxDryRun.Proofs.Json.Records
import SqlxDryRun.Proofs.Json.Shape
import SqlxDryRun.Proofs.Json.Soundness
import SqlxDryRun.Proofs.Json.Spelling
import SqlxDryRun.Proofs.Json.Writing
import SqlxDryRun.Proofs.LineShift
import SqlxDryRun.Proofs.LineShift.Overflow
import SqlxDryRun.Proofs.Locks
import SqlxDryRun.Proofs.Locks.Leftovers
import SqlxDryRun.Proofs.Locks.Traffic
import SqlxDryRun.Proofs.Path.Ancestors
import SqlxDryRun.Proofs.Project.FirstMatch
import SqlxDryRun.Proofs.Project.Format
import SqlxDryRun.Proofs.Project.Lists
import SqlxDryRun.Proofs.Project.Lookup
import SqlxDryRun.Proofs.SourceFile
import SqlxDryRun.Proofs.Suggestion
import SqlxDryRun.Proofs.Surface
import SqlxDryRun.Proofs.Text.Blank
import SqlxDryRun.Proofs.Text.Lines
import SqlxDryRun.Proofs.Text.Matches
import SqlxDryRun.Proofs.Text.Natural
import SqlxDryRun.Proofs.Text.Runs
import SqlxDryRun.Proofs.Text.Search
import SqlxDryRun.Proofs.Text.Utf8
import SqlxDryRun.Proofs.Validation.Bytes
import SqlxDryRun.Proofs.Validation.Location
import SqlxDryRun.Proofs.Workspace
import SqlxDryRun.Settings
import SqlxDryRun.SourceFile
import SqlxDryRun.Suggestion
import SqlxDryRun.Surface
import SqlxDryRun.Terminal
import SqlxDryRun.Text.Ansi
import SqlxDryRun.Text.Blank
import SqlxDryRun.Text.CharClass
import SqlxDryRun.Text.CharRange
import SqlxDryRun.Text.CodeTable
import SqlxDryRun.Text.Composition
import SqlxDryRun.Text.CompositionTable
import SqlxDryRun.Text.Lines
import SqlxDryRun.Text.Natural
import SqlxDryRun.Text.Percent
import SqlxDryRun.Text.Punycode
import SqlxDryRun.Text.Search
import SqlxDryRun.Text.Utf8
import SqlxDryRun.Toml.Document
import SqlxDryRun.Toml.Scalar
import SqlxDryRun.Toml.Value
import SqlxDryRun.Uri.Address
import SqlxDryRun.Uri.Basic
import SqlxDryRun.Uri.Domain
import SqlxDryRun.Uri.DomainTable
import SqlxDryRun.Uri.FilePath
import SqlxDryRun.Uri.Host
import SqlxDryRun.Uri.Reader
import SqlxDryRun.Validation.Bytes
import SqlxDryRun.Validation.Connection
import SqlxDryRun.Validation.Format
import SqlxDryRun.Validation.Location
import SqlxDryRun.Validation.Reply
import SqlxDryRun.Validation.Service
import SqlxDryRun.Workspace
