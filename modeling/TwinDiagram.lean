import TwinDiagram.Block
import TwinDiagram.Command.Arguments
import TwinDiagram.Command.Grid
import TwinDiagram.Command.Jobs
import TwinDiagram.Command.Program
import TwinDiagram.Command.Report
import TwinDiagram.Command.Session
import TwinDiagram.Decimal.Shortest
import TwinDiagram.Decimal.Style
import TwinDiagram.Diagnostic.Basic
import TwinDiagram.Diagnostic.Json
import TwinDiagram.Digest.Sha256
import TwinDiagram.Failure
import TwinDiagram.File.Path
import TwinDiagram.File.Store
import TwinDiagram.Graph.Basic
import TwinDiagram.Graph.Identifier
import TwinDiagram.Graph.Json
import TwinDiagram.Graph.OfModel
import TwinDiagram.Graph.Symbols
import TwinDiagram.Interchange.Load
import TwinDiagram.Interchange.Number
import TwinDiagram.Interchange.Records
import TwinDiagram.Interchange.Shape
import TwinDiagram.Json.Basic
import TwinDiagram.Json.Printer
import TwinDiagram.Json.Reader
import TwinDiagram.Label
import TwinDiagram.Layout.Box
import TwinDiagram.Layout.Cache
import TwinDiagram.Layout.Drawing
import TwinDiagram.Layout.Json
import TwinDiagram.Layout.Metrics
import TwinDiagram.Layout.Placement
import TwinDiagram.Layout.Scalar
import TwinDiagram.Main
import TwinDiagram.Manifest
import TwinDiagram.Markup.Action
import TwinDiagram.Markup.Color
import TwinDiagram.Markup.Emoji
import TwinDiagram.Markup.EmojiNames
import TwinDiagram.Markup.Plain
import TwinDiagram.Markup.Style
import TwinDiagram.Model.Basic
import TwinDiagram.Model.Json
import TwinDiagram.Parser.Basic
import TwinDiagram.Parser.Document
import TwinDiagram.Parser.State
import TwinDiagram.Parser.Statement
import TwinDiagram.Port.Order
import TwinDiagram.Port.Role
import TwinDiagram.Project
import TwinDiagram.Proofs.Block
import TwinDiagram.Proofs.Command.History
import TwinDiagram.Proofs.Command.Layout
import TwinDiagram.Proofs.File.Store
import TwinDiagram.Proofs.Grammar.Document
import TwinDiagram.Proofs.Grammar.Legible
import TwinDiagram.Proofs.Grammar.Model
import TwinDiagram.Proofs.Grammar.Reading
import TwinDiagram.Proofs.Grammar.Tokens
import TwinDiagram.Proofs.Grammar.Words
import TwinDiagram.Proofs.Graph.Account
import TwinDiagram.Proofs.Graph.Agreement
import TwinDiagram.Proofs.Graph.Ambiguity
import TwinDiagram.Proofs.Graph.Build
import TwinDiagram.Proofs.Graph.Clash
import TwinDiagram.Proofs.Graph.Collapse
import TwinDiagram.Proofs.Graph.Collision
import TwinDiagram.Proofs.Graph.Complete
import TwinDiagram.Proofs.Graph.Confusion
import TwinDiagram.Proofs.Graph.Demand
import TwinDiagram.Proofs.Graph.EdgeIdentifier
import TwinDiagram.Proofs.Graph.Entry
import TwinDiagram.Proofs.Graph.FullName
import TwinDiagram.Proofs.Graph.Identifier
import TwinDiagram.Proofs.Graph.Link
import TwinDiagram.Proofs.Graph.Listing
import TwinDiagram.Proofs.Graph.Reorder
import TwinDiagram.Proofs.Graph.Resolution
import TwinDiagram.Proofs.Graph.Symbols
import TwinDiagram.Proofs.Graph.Walk
import TwinDiagram.Proofs.Graph.WellFormed
import TwinDiagram.Proofs.Interchange.Encoded
import TwinDiagram.Proofs.Interchange.Exact
import TwinDiagram.Proofs.Interchange.Pointing
import TwinDiagram.Proofs.Interchange.Published
import TwinDiagram.Proofs.Interchange.Reading
import TwinDiagram.Proofs.Interchange.RoundTrip
import TwinDiagram.Proofs.Interchange.Tidy
import TwinDiagram.Proofs.Interchange.Values
import TwinDiagram.Proofs.Interchange.Written
import TwinDiagram.Proofs.Json.Escape
import TwinDiagram.Proofs.Json.Keys
import TwinDiagram.Proofs.Json.Nesting
import TwinDiagram.Proofs.Json.Outline
import TwinDiagram.Proofs.Json.Printable
import TwinDiagram.Proofs.Json.RoundTrip
import TwinDiagram.Proofs.Json.Spelling
import TwinDiagram.Proofs.Json.Word
import TwinDiagram.Proofs.Label
import TwinDiagram.Proofs.Layout.Arrival
import TwinDiagram.Proofs.Layout.Boundary
import TwinDiagram.Proofs.Layout.Canvas
import TwinDiagram.Proofs.Layout.Checked
import TwinDiagram.Proofs.Layout.Dashes
import TwinDiagram.Proofs.Layout.Depth
import TwinDiagram.Proofs.Layout.Entry
import TwinDiagram.Proofs.Layout.Frame
import TwinDiagram.Proofs.Layout.Genuine
import TwinDiagram.Proofs.Layout.Grid
import TwinDiagram.Proofs.Layout.History
import TwinDiagram.Proofs.Layout.Key
import TwinDiagram.Proofs.Layout.Once
import TwinDiagram.Proofs.Layout.Partner
import TwinDiagram.Proofs.Layout.Reorder
import TwinDiagram.Proofs.Layout.Ruled
import TwinDiagram.Proofs.Layout.Rules
import TwinDiagram.Proofs.Layout.Stage
import TwinDiagram.Proofs.Layout.TwinRow
import TwinDiagram.Proofs.Layout.TwinSides
import TwinDiagram.Proofs.Layout.Unreadable
import TwinDiagram.Proofs.Manifest
import TwinDiagram.Proofs.Model
import TwinDiagram.Proofs.Parser.Aside
import TwinDiagram.Proofs.Parser.BadStatement
import TwinDiagram.Proofs.Parser.BlockEnd
import TwinDiagram.Proofs.Parser.Calls
import TwinDiagram.Proofs.Parser.Carries
import TwinDiagram.Proofs.Parser.Cut
import TwinDiagram.Proofs.Parser.Depth
import TwinDiagram.Proofs.Parser.Direct
import TwinDiagram.Proofs.Parser.Header
import TwinDiagram.Proofs.Parser.Inert
import TwinDiagram.Proofs.Parser.LetterCase
import TwinDiagram.Proofs.Parser.LineEnding
import TwinDiagram.Proofs.Parser.Lockstep
import TwinDiagram.Proofs.Parser.Motion
import TwinDiagram.Proofs.Parser.Names
import TwinDiagram.Proofs.Parser.Naming
import TwinDiagram.Proofs.Parser.Note
import TwinDiagram.Proofs.Parser.Overlap
import TwinDiagram.Proofs.Parser.Place
import TwinDiagram.Proofs.Parser.Progress
import TwinDiagram.Proofs.Parser.Refusal
import TwinDiagram.Proofs.Parser.RootBlock
import TwinDiagram.Proofs.Parser.Run
import TwinDiagram.Proofs.Parser.Sections
import TwinDiagram.Proofs.Parser.Shift
import TwinDiagram.Proofs.Parser.Spacing
import TwinDiagram.Proofs.Parser.Stream
import TwinDiagram.Proofs.Parser.Together
import TwinDiagram.Proofs.Parser.Trailing
import TwinDiagram.Proofs.Parser.Translation
import TwinDiagram.Proofs.Parser.Truncation
import TwinDiagram.Proofs.Parser.WellFormed
import TwinDiagram.Proofs.Port.Order
import TwinDiagram.Proofs.Program
import TwinDiagram.Proofs.Sorting
import TwinDiagram.Proofs.Table
import TwinDiagram.Proofs.Text.Case
import TwinDiagram.Proofs.Text.Join
import TwinDiagram.Proofs.Text.Utf8
import TwinDiagram.Proofs.Text.Words
import TwinDiagram.Proofs.Token.Comments
import TwinDiagram.Proofs.Token.Ending
import TwinDiagram.Proofs.Token.Identifier
import TwinDiagram.Proofs.Token.Insertion
import TwinDiagram.Proofs.Token.LetterCase
import TwinDiagram.Proofs.Token.Lexer
import TwinDiagram.Proofs.Token.LineEnding
import TwinDiagram.Proofs.Token.Lines
import TwinDiagram.Proofs.Token.Order
import TwinDiagram.Proofs.Token.Printed
import TwinDiagram.Proofs.Token.Region
import TwinDiagram.Proofs.Token.Shape
import TwinDiagram.Proofs.Token.Tiling
import TwinDiagram.Table
import TwinDiagram.Text.Alphanumeric
import TwinDiagram.Text.Blank
import TwinDiagram.Text.Case
import TwinDiagram.Text.CaseMap
import TwinDiagram.Text.Control
import TwinDiagram.Text.Hex
import TwinDiagram.Text.Printable
import TwinDiagram.Text.Quoted
import TwinDiagram.Text.Ranges
import TwinDiagram.Text.Template
import TwinDiagram.Text.Utf8
import TwinDiagram.Text.Width
import TwinDiagram.Text.Wrap
import TwinDiagram.Token.Basic
import TwinDiagram.Token.Comments
import TwinDiagram.Token.Lexer
import TwinDiagram.Toml.Basic
import TwinDiagram.Toml.Moment
import TwinDiagram.Toml.Reader
import TwinDiagram.Toml.Scalar
import TwinDiagram.Toml.Tables
