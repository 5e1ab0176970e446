import OpenDocs.CommandLine.Arguments
import OpenDocs.CommandLine.Option
import OpenDocs.CommandLine.Run
import OpenDocs.Diff.Hunk
import OpenDocs.Diff.Matching
import OpenDocs.Diff.Unified
import OpenDocs.Disk.Access
import OpenDocs.Disk.Basic
import OpenDocs.Disk.FileName
import OpenDocs.Disk.Path
import OpenDocs.Edit
import OpenDocs.Encoding.Front
import OpenDocs.Encoding.Scheme
import OpenDocs.Encoding.Utf8
import OpenDocs.Encoding.Wide
import OpenDocs.Failure
import OpenDocs.Headings.Line
import OpenDocs.Headings.Section
import OpenDocs.Json.Basic
import OpenDocs.Json.Printer
import OpenDocs.Json.Reader
import OpenDocs.Json.Shown
import OpenDocs.Listener
import OpenDocs.Log.Level
import OpenDocs.Log.Logger
import OpenDocs.Log.Record
import OpenDocs.Log.RollingFile
import OpenDocs.Log.Setup
import OpenDocs.Main
import OpenDocs.Number.Binary64
import OpenDocs.Number.Fixed
import OpenDocs.Number.Shortest
import OpenDocs.Outline.Kind
import OpenDocs.Outline.Language
import OpenDocs.Outline.Node
import OpenDocs.Outline.Reading
import OpenDocs.Outline.Symbol
import OpenDocs.Position
import OpenDocs.Problem
import OpenDocs.Program.Grammar
import OpenDocs.Program.Lexer
import OpenDocs.Program.Literal
import OpenDocs.Program.Number
import OpenDocs.Program.Outline
import OpenDocs.Program.Pattern
import OpenDocs.Program.Source
import OpenDocs.Program.Statement
import OpenDocs.Program.Token
import OpenDocs.Proofs.Edit.BottomUp
import OpenDocs.Proofs.Edit.Locality
import OpenDocs.Proofs.Edit.Outcome
import OpenDocs.Proofs.Headings.Cover
import OpenDocs.Proofs.Headings.Detected
import OpenDocs.Proofs.Headings.Nesting
import OpenDocs.Proofs.Number.Decimal
import OpenDocs.Proofs.Outline.Entry
import OpenDocs.Proofs.Outline.Loop
import OpenDocs.Proofs.Outline.Mirror
import OpenDocs.Proofs.Outline.Reading
import OpenDocs.Proofs.Outline.Rendering
import OpenDocs.Proofs.Outline.Walk
import OpenDocs.Proofs.Text.Carets
import OpenDocs.Proofs.Text.Spans
import OpenDocs.Proofs.Text.Tiling
import OpenDocs.Proofs.Text.Walk
import OpenDocs.Proposals
import OpenDocs.Raw
import OpenDocs.Server.Controller
import OpenDocs.Settings.Environment
import OpenDocs.Settings.Field
import OpenDocs.Settings.Store
import OpenDocs.Tabs.Editor
import OpenDocs.Tabs.Tab
import OpenDocs.Tabs.Workspace
import OpenDocs.Text.Boundaries
import OpenDocs.Text.Capital
import OpenDocs.Text.Case
import OpenDocs.Text.Classes
import OpenDocs.Text.CodePoints
import OpenDocs.Text.Compatibility
import OpenDocs.Text.Cut
import OpenDocs.Text.Integer
import OpenDocs.Text.Lines
import OpenDocs.Text.Quoted
import OpenDocs.Web.CrossOrigin
import OpenDocs.Web.EditRequest
import OpenDocs.Web.Exchange
import OpenDocs.Web.Field
import OpenDocs.Web.FieldName
import OpenDocs.Web.Message
import OpenDocs.Web.Route
import OpenDocs.Web.Service
import OpenDocs.Proofs.Headings.Coherence
import OpenDocs.Proofs.Headings.Ranges
import OpenDocs.Proofs.Diff.Blocks
import OpenDocs.Proofs.Diff.Identity
import OpenDocs.Proofs.Diff.Steps
import OpenDocs.Proofs.Diff.Hunks
import OpenDocs.Proofs.Diff.Lines
import OpenDocs.Proofs.Diff.Unified
import OpenDocs.Proofs.Text.Identifiers
import OpenDocs.Proofs.Program.Matches
import OpenDocs.Proofs.Program.Names
import OpenDocs.Proofs.Program.Ranges
import OpenDocs.Proofs.Program.Tokens
import OpenDocs.Proofs.Headings.Titles
import OpenDocs.Proofs.Server.Lifecycle
import OpenDocs.Proofs.Server.Steps
import OpenDocs.Proofs.Outline.Language
import OpenDocs.Proofs.Number.Spare
import OpenDocs.Proofs.Tabs.Opening
import OpenDocs.Proofs.Tabs.Listing
import OpenDocs.Proofs.Disk.Normal
import OpenDocs.Proofs.Tabs.Lookup
import OpenDocs.Proofs.Web.Routing
import OpenDocs.Proofs.Web.Unknown
import OpenDocs.Proofs.Disk.Places
import OpenDocs.Proofs.Tabs.Buffers
import OpenDocs.Proofs.Disk.Writing
import OpenDocs.Proofs.Web.Proposing
import OpenDocs.Proofs.Web.Frame
import OpenDocs.Proofs.Outline.Payload
import OpenDocs.Proofs.Web.Outlines
import OpenDocs.Proofs.Encoding.Codec
import OpenDocs.Proofs.Encoding.Utf8
import OpenDocs.Proofs.Encoding.Wide
import OpenDocs.Proofs.Encoding.Marks
import OpenDocs.Proofs.Disk.Texts
import OpenDocs.Proofs.Json.Printed
import OpenDocs.Proofs.Settings.Saving
import OpenDocs.Proofs.Edit.Undo
import OpenDocs.Proofs.Outline.Visits
import OpenDocs.Proofs.Outline.FirstFlaw
import OpenDocs.Proofs.Json.Keys
import OpenDocs.Proofs.Settings.Startup
import OpenDocs.Proofs.Disk.Spelling
import OpenDocs.Proofs.Tabs.ShownPaths
import OpenDocs.Proofs.Steps
import OpenDocs.Proofs.Raw.Spellings
import OpenDocs.Proofs.Outline.Writing
import OpenDocs.Proofs.Text.LineTable
import OpenDocs.Proofs.Headings.Breaks
import OpenDocs.Proofs.Headings.Fences
import OpenDocs.Proofs.Text.Blanks
import OpenDocs.Proofs.Headings.Numbered
import OpenDocs.Proofs.Headings.Written
import OpenDocs.Proofs.Headings.Names
import OpenDocs.Proofs.Program.Nesting
import OpenDocs.Proofs.Program.Targets
import OpenDocs.Proofs.Disk.Atomic
import OpenDocs.Proofs.Tabs.Reopening
import OpenDocs.Proofs.Tabs.Precedence
import OpenDocs.Proofs.Diff.Readable
import OpenDocs.Proofs.Text.Ends
import OpenDocs.Proofs.Disk.SafeNames
import OpenDocs.Proofs.Proposals
import OpenDocs.Proofs.Settings.Layers
import OpenDocs.Proofs.Log.Names
import OpenDocs.Proofs.Log.Loggers
import OpenDocs.Proofs.Log.RollingFile
import OpenDocs.Proofs.Log.Routing
import OpenDocs.Proofs.CommandLine.Opening
import OpenDocs.Proofs.CommandLine.Runs
import OpenDocs.Proofs.Encoding.Truncation
import OpenDocs.Proofs.Program.Columns
import OpenDocs.Proofs.Log.Calls
import OpenDocs.Proofs.Log.History
