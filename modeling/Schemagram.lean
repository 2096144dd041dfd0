import Schemagram.Binding
import Schemagram.Command.Arguments
import Schemagram.Command.Basic
import Schemagram.Command.Number
import Schemagram.Command.Run
import Schemagram.Decimal.Double
import Schemagram.Decimal.Natural
import Schemagram.Decimal.Shortest
import Schemagram.Diagram.Basic
import Schemagram.Diagram.Document
import Schemagram.Diagram.LayoutFile
import Schemagram.Diagram.Summary
import Schemagram.Dialect.Basic
import Schemagram.Dialect.Column
import Schemagram.Dialect.Dbml
import Schemagram.Dialect.Markers
import Schemagram.Dialect.Shorthand
import Schemagram.Dialect.Sql
import Schemagram.Event
import Schemagram.Files.Folder
import Schemagram.Files.Location
import Schemagram.Files.System
import Schemagram.Json.Basic
import Schemagram.Json.Parser
import Schemagram.Json.Printer
import Schemagram.Keyed
import Schemagram.Main
import Schemagram.Scan
import Schemagram.Schema
import Schemagram.Screen.ColorTable
import Schemagram.Screen.Console
import Schemagram.Screen.Emoji
import Schemagram.Screen.EmojiTable
import Schemagram.Screen.Markup
import Schemagram.Screen.Renderer
import Schemagram.Screen.Style
import Schemagram.Screen.View
import Schemagram.Screen.Width
import Schemagram.Screen.WidthTable
import Schemagram.Screen.Wrap
import Schemagram.Strict.Declaration
import Schemagram.Strict.Grammar
import Schemagram.Strict.Json
import Schemagram.Strict.Mismatch
import Schemagram.Strict.Table
import Schemagram.Strict.Token
import Schemagram.Strict.View
import Schemagram.Table
import Schemagram.Table.Json
import Schemagram.Table.Session
import Schemagram.Table.View
import Schemagram.Text.Case
import Schemagram.Text.CaseTable
import Schemagram.Text.CharClass
import Schemagram.Text.CodePoint
import Schemagram.Text.Hex
import Schemagram.Text.Letter
import Schemagram.Text.NewLine
import Schemagram.Text.Piece
import Schemagram.Text.PrintTable
import Schemagram.Text.Quoted
import Schemagram.Text.Utf8
import Schemagram.Text.WordTable
import Schemagram.Toml.Basic
import Schemagram.Toml.Document
import Schemagram.Toml.Moment
import Schemagram.Toml.Nest
import Schemagram.Toml.Scalar
import Schemagram.Toml.Statement
import Schemagram.Strict.Phrase
import Schemagram.Proofs.Strict.Reading
import Schemagram.Proofs.Strict.Unambiguous
import Schemagram.Proofs.Strict.Derivation
import Schemagram.Proofs.Scan.Forms
import Schemagram.Proofs.Tables.Sound
import Schemagram.Proofs.Json.RoundTrip
import Schemagram.Proofs.Diagram.Building
import Schemagram.Proofs.Diagram.Document
import Schemagram.Proofs.Scan.Writing
import Schemagram.Proofs.Scan.Search
import Schemagram.Proofs.Sql.Writing
import Schemagram.Proofs.Sql.Reading
import Schemagram.Proofs.Sql.Body
import Schemagram.Proofs.Sql.Statements
import Schemagram.Proofs.Sql.RoundTrip
import Schemagram.Proofs.Diagram.Drawing
import Schemagram.Proofs.Diagram.Endpoints
import Schemagram.Proofs.Blocks.Finding
import Schemagram.Proofs.Blocks.Lines
import Schemagram.Proofs.Blocks.Reading
import Schemagram.Proofs.Dbml.RoundTrip
import Schemagram.Proofs.Shorthand.Arrows
import Schemagram.Proofs.Shorthand.Lines
import Schemagram.Proofs.Shorthand.References
import Schemagram.Proofs.Shorthand.RoundTrip
import Schemagram.Proofs.Blocks.Printing
import Schemagram.Proofs.Strict.Lexemes
import Schemagram.Proofs.Strict.Places
import Schemagram.Proofs.Strict.Layout
import Schemagram.Proofs.Strict.Pieces
import Schemagram.Proofs.Strict.Binding
import Schemagram.Proofs.Strict.Order
import Schemagram.Proofs.Strict.References
import Schemagram.Proofs.Tables.Balance
import Schemagram.Proofs.Scan.Parts
import Schemagram.Proofs.Scan.Marks
import Schemagram.Proofs.Tables.Outline
import Schemagram.Proofs.Tables.Session
import Schemagram.Proofs.Tables.Order
import Schemagram.Proofs.Dialect.Detection
import Schemagram.Proofs.Dialect.Agreement
import Schemagram.Proofs.Dialect.Document
import Schemagram.Proofs.Dialect.Order
import Schemagram.Proofs.LineEnds.Schema
import Schemagram.Proofs.Results
import Schemagram.Proofs.Json.Orderly
import Schemagram.Proofs.Json.Characters
import Schemagram.Proofs.Diagram.Loading
import Schemagram.Proofs.Diagram.Grid
import Schemagram.Proofs.Command.Inspection
import Schemagram.Proofs.Strict.Resolution
import Schemagram.Proofs.Strict.Coverage
import Schemagram.Proofs.Screen.Marks
import Schemagram.Proofs.Screen.Lines
import Schemagram.Proofs.Screen.Pages
import Schemagram.Proofs.Screen.Console
import Schemagram.Proofs.Strict.Sound
import Schemagram.Proofs.Command.Listing
import Schemagram.Proofs.Strict.Unchecked
import Schemagram.Proofs.Strict.Prompt
import Schemagram.Proofs.Strict.FirstFault
import Schemagram.Proofs.Strict.Mismatches
import Schemagram.Proofs.Tables.Ownership
import Schemagram.Proofs.Shorthand.Apart
import Schemagram.Proofs.Sql.LinearScan
import Schemagram.Proofs.Sql.Flags
import Schemagram.Proofs.Sql.Spacing
import Schemagram.Proofs.Sql.Members
import Schemagram.Proofs.Keyed
import Schemagram.Proofs.Diagram.EnumData
import Schemagram.Proofs.Diagram.Attributes
import Schemagram.Proofs.Blocks.Enums
import Schemagram.Proofs.Json.Notation
import Schemagram.Proofs.Json.Denotation
import Schemagram.Proofs.Diagram.Acceptance
import Schemagram.Proofs.Strict.Progress
import Schemagram.Proofs.Toml.Steps
import Schemagram.Proofs.Toml.Orderly
import Schemagram.Proofs.Toml.Order
import Schemagram.Proofs.Diagram.Settings
import Schemagram.Proofs.Files.Writing
import Schemagram.Proofs.Command.Effects
