import DartScaffold.Analysis.Model
import DartScaffold.Backend.Answers
import DartScaffold.Backend.Basic
import DartScaffold.Backend.Installation
import DartScaffold.Backend.Manifest
import DartScaffold.Backend.ManifestSource
import DartScaffold.Backend.Mapped
import DartScaffold.Backend.ModelClass
import DartScaffold.Backend.Reference
import DartScaffold.Backend.Subject
import DartScaffold.Backend.View
import DartScaffold.Command.Execution
import DartScaffold.Command.Grammar
import DartScaffold.Command.Invocation
import DartScaffold.Command.PlainText
import DartScaffold.Command.Reading
import DartScaffold.Command.Report
import DartScaffold.Dart.Artifact
import DartScaffold.Dart.Builtin
import DartScaffold.Dart.Context
import DartScaffold.Dart.DataClass
import DartScaffold.Dart.Field
import DartScaffold.Dart.Generator
import DartScaffold.Dart.Keyword
import DartScaffold.Dart.Layout
import DartScaffold.Dart.Place
import DartScaffold.Dart.Screen
import DartScaffold.Dart.Service
import DartScaffold.Dart.Templates.Card
import DartScaffold.Dart.Templates.CreateScreen
import DartScaffold.Dart.Templates.DataClass
import DartScaffold.Dart.Templates.DetailScreen
import DartScaffold.Dart.Templates.EditScreen
import DartScaffold.Dart.Templates.Form
import DartScaffold.Dart.Templates.Header
import DartScaffold.Dart.Templates.Items
import DartScaffold.Dart.Templates.ListScreen
import DartScaffold.Dart.Templates.Service
import DartScaffold.Dart.Templates.Transport
import DartScaffold.Dart.Transport
import DartScaffold.Dart.Widget
import DartScaffold.Database.Address
import DartScaffold.Database.SqlType
import DartScaffold.Database.Statement
import DartScaffold.Database.Table
import DartScaffold.Datum.Basic
import DartScaffold.Datum.Display
import DartScaffold.Datum.Keys
import DartScaffold.Datum.Mapping
import DartScaffold.Datum.Parser
import DartScaffold.Datum.Use
import DartScaffold.Datum.Writer
import DartScaffold.Document
import DartScaffold.Entries
import DartScaffold.Fault
import DartScaffold.FileTree
import DartScaffold.Main
import DartScaffold.Naming.Plural
import DartScaffold.Naming.Sanitizer
import DartScaffold.Naming.Unqualified
import DartScaffold.Naming.Words
import DartScaffold.Number.Double
import DartScaffold.Number.Shortest
import DartScaffold.Path
import DartScaffold.Pipeline.Basic
import DartScaffold.Pipeline.Outcome
import DartScaffold.Pipeline.Plan
import DartScaffold.Pipeline.Progress
import DartScaffold.Pipeline.Workshop
import DartScaffold.Proofs.Analysis.EntryEnding
import DartScaffold.Proofs.Analysis.ProbedRelations
import DartScaffold.Proofs.Analysis.TableColumns
import DartScaffold.Proofs.Backend.Loading
import DartScaffold.Proofs.Command.ExitCode
import DartScaffold.Proofs.Command.ForcedRun
import DartScaffold.Proofs.Command.Performing
import DartScaffold.Proofs.Datum.Rereading
import DartScaffold.Proofs.Datum.Written
import DartScaffold.Proofs.Files.Additions
import DartScaffold.Proofs.Files.Growth
import DartScaffold.Proofs.Files.WrittenPath
import DartScaffold.Proofs.Generation.AskedNames
import DartScaffold.Proofs.Generation.Brackets
import DartScaffold.Proofs.Generation.CanonicalLayout
import DartScaffold.Proofs.Generation.CardFields
import DartScaffold.Proofs.Generation.ClassLines
import DartScaffold.Proofs.Generation.ClassText
import DartScaffold.Proofs.Generation.ClassWords
import DartScaffold.Proofs.Generation.Collisions
import DartScaffold.Proofs.Generation.CommentLines
import DartScaffold.Proofs.Generation.Documentation
import DartScaffold.Proofs.Generation.DocumentedParts
import DartScaffold.Proofs.Generation.FilledShapes
import DartScaffold.Proofs.Generation.FormControls
import DartScaffold.Proofs.Generation.FormLines
import DartScaffold.Proofs.Generation.FormReading
import DartScaffold.Proofs.Generation.FormText
import DartScaffold.Proofs.Generation.ImportedFolders
import DartScaffold.Proofs.Generation.Imports
import DartScaffold.Proofs.Generation.Independence
import DartScaffold.Proofs.Generation.LayoutAround
import DartScaffold.Proofs.Generation.LeftOut
import DartScaffold.Proofs.Generation.LineBeginnings
import DartScaffold.Proofs.Generation.NestedParts
import DartScaffold.Proofs.Generation.PlannedPaths
import DartScaffold.Proofs.Generation.QuotedKeys
import DartScaffold.Proofs.Generation.QuotedText
import DartScaffold.Proofs.Generation.Remembering
import DartScaffold.Proofs.Generation.Repetition
import DartScaffold.Proofs.Naming.Answers
import DartScaffold.Proofs.Naming.Identifier
import DartScaffold.Proofs.Naming.Joined
import DartScaffold.Proofs.Naming.LastPart
import DartScaffold.Proofs.Naming.LosslessForms
import DartScaffold.Proofs.Naming.Memory
import DartScaffold.Proofs.Naming.Requests
import DartScaffold.Proofs.Naming.SeparatedForms
import DartScaffold.Proofs.Naming.SharedFields
import DartScaffold.Proofs.Naming.Singular
import DartScaffold.Proofs.Naming.Usable
import DartScaffold.Proofs.Naming.Written
import DartScaffold.Proofs.Occurrences
import DartScaffold.Proofs.Pipeline.Accounting
import DartScaffold.Proofs.Pipeline.Batch
import DartScaffold.Proofs.Pipeline.Ending
import DartScaffold.Proofs.Pipeline.Isolation
import DartScaffold.Proofs.Pipeline.NewGenerators
import DartScaffold.Proofs.Pipeline.Planning
import DartScaffold.Proofs.Pipeline.Protection
import DartScaffold.Proofs.Pipeline.Regeneration
import DartScaffold.Proofs.Pipeline.Retracing
import DartScaffold.Proofs.Pipeline.Turns
import DartScaffold.Proofs.Pipeline.Unlogged
import DartScaffold.Proofs.Pipeline.Watched
import DartScaffold.Proofs.Pipeline.Writing
import DartScaffold.Proofs.Registry.History
import DartScaffold.Proofs.Registry.Registering
import DartScaffold.Proofs.Routing.ManifestEntry
import DartScaffold.Proofs.Routing.ModelBinding
import DartScaffold.Proofs.Routing.Placeholders
import DartScaffold.Proofs.Routing.ResourceGroups
import DartScaffold.Proofs.Routing.RouteTable
import DartScaffold.Proofs.Service.MethodNames
import DartScaffold.Proofs.Service.RequestPath
import DartScaffold.Proofs.Service.StringBody
import DartScaffold.Proofs.Settings.Overlay
import DartScaffold.Proofs.Settings.Precedence
import DartScaffold.Proofs.Settings.Saving
import DartScaffold.Proofs.Settings.UnknownKeys
import DartScaffold.Proofs.Steps
import DartScaffold.Proofs.Template.Filling
import DartScaffold.Proofs.Template.Shape
import DartScaffold.Proofs.Template.SideBySide
import DartScaffold.Proofs.Text.LetterCase
import DartScaffold.Proofs.Text.Lines
import DartScaffold.Proofs.Text.Nesting
import DartScaffold.Registry
import DartScaffold.Routing.Analysis
import DartScaffold.Routing.Placeholder
import DartScaffold.Schema.ColumnType
import DartScaffold.Schema.Described
import DartScaffold.Schema.Document
import DartScaffold.Schema.Model
import DartScaffold.Session
import DartScaffold.Settings.Basic
import DartScaffold.Settings.File
import DartScaffold.Settings.Layers
import DartScaffold.Template.Basic
import DartScaffold.Template.Check
import DartScaffold.Template.Chunk
import DartScaffold.Template.Document
import DartScaffold.Template.Filter
import DartScaffold.Template.Grammar
import DartScaffold.Template.Library
import DartScaffold.Template.Operation
import DartScaffold.Template.Reader
import DartScaffold.Template.Render
import DartScaffold.Template.Token
import DartScaffold.Template.Value
import DartScaffold.Text.Alphanumeric
import DartScaffold.Text.Blank
import DartScaffold.Text.CodePoints
import DartScaffold.Text.Digit
import DartScaffold.Text.Identifier
import DartScaffold.Text.LetterCase
import DartScaffold.Text.Printable
import DartScaffold.Text.Quoted
import DartScaffold.Text.Split
import DartScaffold.Text.Utf8
import DartScaffold.Text.Wide
import DartScaffold.Web.Body
import DartScaffold.Web.Exchange
import DartScaffold.Web.Host
import DartScaffold.Web.Url
