import Varsheet.Command.Args
import Varsheet.Command.Run
import Varsheet.Compile
import Varsheet.Decimal.Layout
import Varsheet.Decimal.Shortest
import Varsheet.Document.Block
import Varsheet.Document.Entry
import Varsheet.Document.Reader
import Varsheet.Event.Basic
import Varsheet.Event.Filter
import Varsheet.Fault
import Varsheet.Files.Path
import Varsheet.Files.Store
import Varsheet.Job
import Varsheet.Json.Basic
import Varsheet.Json.Lexeme
import Varsheet.Json.Number
import Varsheet.Json.Reader
import Varsheet.Main
import Varsheet.Options.Basic
import Varsheet.Options.Loader
import Varsheet.Pattern.Bracket
import Varsheet.Pattern.Group
import Varsheet.Pattern.Mode
import Varsheet.Pattern.Nesting
import Varsheet.Pattern.Reader
import Varsheet.Pattern.Symbol
import Varsheet.Reference
import Varsheet.Render.Basic
import Varsheet.Render.Json
import Varsheet.Render.Script
import Varsheet.Render.Stylesheet
import Varsheet.Text.Alphabetic
import Varsheet.Text.Alphanumeric
import Varsheet.Text.Blank
import Varsheet.Text.Hexadecimal
import Varsheet.Text.Lines
import Varsheet.Text.Numeric
import Varsheet.Text.Piece
import Varsheet.Text.Quoted
import Varsheet.Text.Ranges
import Varsheet.Text.Unprintable
import Varsheet.Tree.Basic
import Varsheet.Proofs.Document.Outline
import Varsheet.Proofs.Document.Nesting
import Varsheet.Proofs.Document.Kinds
import Varsheet.Proofs.Document.Extent
import Varsheet.Proofs.Compile.Failure
import Varsheet.Proofs.Document.Depth
import Varsheet.Proofs.Text.Lines
import Varsheet.Proofs.Tree.Shape
import Varsheet.Proofs.Document.Writing
import Varsheet.Proofs.Script.Decoding
import Varsheet.Proofs.Document.Calls
import Varsheet.Proofs.Json.Grammar
import Varsheet.Proofs.Json.Lexemes
import Varsheet.Proofs.Json.Reading
import Varsheet.Proofs.Json.Writing
import Varsheet.Proofs.Json.Halves
import Varsheet.Proofs.Options.Settings
import Varsheet.Proofs.Options.Loading
import Varsheet.Proofs.Options.Strictness
import Varsheet.Proofs.Options.Exported
import Varsheet.Proofs.Reference.Substitution
import Varsheet.Proofs.Compile.Contents
import Varsheet.Proofs.Command.Precedence
import Varsheet.Proofs.Command.Outcome
import Varsheet.Proofs.Script.Layout
import Varsheet.Proofs.Script.Modes
import Varsheet.Proofs.Stylesheet.Declarations
import Varsheet.Proofs.Render.Names
import Varsheet.Proofs.Document.Sheets
import Varsheet.Proofs.Document.Composition
import Varsheet.Proofs.Document.Remarks
import Varsheet.Proofs.Reference.Passes
import Varsheet.Proofs.Tree.Reordering
import Varsheet.Proofs.Reference.Order
import Varsheet.Proofs.Reference.Growth
import Varsheet.Proofs.Reference.Reports
import Varsheet.Proofs.Files.Home
import Varsheet.Proofs.Options.FirstProblem
import Varsheet.Proofs.Document.Stretch
import Varsheet.Proofs.Document.Endings
import Varsheet.Proofs.Command.Given
import Varsheet.Proofs.Command.Spelling
