import SwiftInterface.Access
import SwiftInterface.Access.Choice
import SwiftInterface.CommandLine.Arguments
import SwiftInterface.CommandLine.Command
import SwiftInterface.CommandLine.Execution
import SwiftInterface.CommandLine.Help
import SwiftInterface.CommandLine.Survey
import SwiftInterface.Declaration
import SwiftInterface.Declaration.Dump
import SwiftInterface.Failure
import SwiftInterface.Files.Path
import SwiftInterface.Files.Tree
import SwiftInterface.Generation
import SwiftInterface.Interface
import SwiftInterface.Json.Basic
import SwiftInterface.Json.Reader
import SwiftInterface.Log.Handler
import SwiftInterface.Log.Record
import SwiftInterface.Log.Stamp
import SwiftInterface.Main
import SwiftInterface.Number.Double
import SwiftInterface.Number.Integer
import SwiftInterface.Number.Shortest
import SwiftInterface.Proofs.Access.Recognition
import SwiftInterface.Proofs.CommandLine.FilesTouched
import SwiftInterface.Proofs.Declaration.Cleaning
import SwiftInterface.Proofs.Declaration.DumpShapes
import SwiftInterface.Proofs.Files.FolderCreation
import SwiftInterface.Proofs.Files.Path
import SwiftInterface.Proofs.Files.Resolution
import SwiftInterface.Proofs.Generation.Delivery
import SwiftInterface.Proofs.Generation.Failure
import SwiftInterface.Proofs.Generation.Phases
import SwiftInterface.Proofs.Generation.Sources
import SwiftInterface.Proofs.Json.LineEnds
import SwiftInterface.Proofs.Json.Progress
import SwiftInterface.Proofs.Json.UnifiedReading
import SwiftInterface.Proofs.Lookup
import SwiftInterface.Proofs.Render.Accounting
import SwiftInterface.Proofs.Render.Balance
import SwiftInterface.Proofs.Render.BalancedOutput
import SwiftInterface.Proofs.Render.Depth
import SwiftInterface.Proofs.Render.Fate
import SwiftInterface.Proofs.Render.Filtering
import SwiftInterface.Proofs.Render.HiddenContent
import SwiftInterface.Proofs.Render.History
import SwiftInterface.Proofs.Render.Monotonicity
import SwiftInterface.Proofs.Render.Position
import SwiftInterface.Proofs.Render.Session
import SwiftInterface.Proofs.Store.Changes
import SwiftInterface.Proofs.Store.History
import SwiftInterface.Proofs.Text.LineEnds
import SwiftInterface.Proofs.Text.Lines
import SwiftInterface.Proofs.Text.SourceLines
import SwiftInterface.Proofs.Text.Trimming
import SwiftInterface.Proofs.Tool.Production
import SwiftInterface.Proofs.World.Preservation
import SwiftInterface.Render.Balance
import SwiftInterface.Render.Documentation
import SwiftInterface.Render.Session
import SwiftInterface.Render.Tree
import SwiftInterface.Settings.Basic
import SwiftInterface.Settings.Environment
import SwiftInterface.Settings.File
import SwiftInterface.Store
import SwiftInterface.Text.Blank
import SwiftInterface.Text.Cased
import SwiftInterface.Text.Digit
import SwiftInterface.Text.LetterCase
import SwiftInterface.Text.Lines
import SwiftInterface.Text.LowerCase
import SwiftInterface.Text.Printable
import SwiftInterface.Text.Quoted
import SwiftInterface.Text.UpperCase
import SwiftInterface.Text.Utf8
import SwiftInterface.Tool.Formatter
import SwiftInterface.Tool.Indexer
import SwiftInterface.Value.Basic
import SwiftInterface.Value.SetOrder
import SwiftInterface.World
import SwiftInterface.Yaml.Construction
import SwiftInterface.Yaml.Cursor
import SwiftInterface.Yaml.Document
import SwiftInterface.Yaml.Node
import SwiftInterface.Yaml.Scalar
import SwiftInterface.Yaml.ScalarValue
import SwiftInterface.Yaml.Tag
import SwiftInterface.Yaml.Token
import SwiftInterface.Proofs.CommandLine.ErrorReport
import SwiftInterface.Proofs.Generation.EscapingFaults
import SwiftInterface.Proofs.Settings.Acceptance
import SwiftInterface.Proofs.Settings.Loading
import SwiftInterface.Proofs.Settings.EscapingFaults
import SwiftInterface.Proofs.Settings.EffectiveSettings
import SwiftInterface.Proofs.Render.BracketGrammar
import SwiftInterface.Proofs.Render.CommentLines
import SwiftInterface.Proofs.Render.Transparency
import SwiftInterface.Proofs.CommandLine.LogContext
import SwiftInterface.Proofs.CommandLine.Precedence
import SwiftInterface.Proofs.Number.Spelling
import SwiftInterface.Proofs.Settings.TimeoutSources
import SwiftInterface.Proofs.Settings.DistinctKeys
import SwiftInterface.Proofs.Value.Likeness
import SwiftInterface.Proofs.Settings.EntryByEntry
import SwiftInterface.Proofs.Settings.Combination
import SwiftInterface.Proofs.CommandLine.BuildArguments
import SwiftInterface.Proofs.Files.FolderRepetition
import SwiftInterface.Proofs.Store.Repetition
import SwiftInterface.Proofs.Generation.Parallel
import SwiftInterface.Proofs.Generation.Repetition
import SwiftInterface.Proofs.CommandLine.RunIdentifier
import SwiftInterface.Proofs.CommandLine.VerbosityPosition
import SwiftInterface.Proofs.Log.NestedScopes
import SwiftInterface.Proofs.Store.Naming
import SwiftInterface.Machine
import SwiftInterface.Text.Halves
import SwiftInterface.Render.Descent
import SwiftInterface.Proofs.Text.Halves
import SwiftInterface.Proofs.Render.Descent
