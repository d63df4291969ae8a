import Worksheet.Command.Args
import Worksheet.Command.Basic
import Worksheet.Context
import Worksheet.Context.Json
import Worksheet.Field.Basic
import Worksheet.Field.Binding
import Worksheet.Field.Json
import Worksheet.Field.Listing
import Worksheet.Formula.Eval
import Worksheet.Formula.Expr
import Worksheet.Formula.Parser
import Worksheet.Formula.References
import Worksheet.Formula.Token
import Worksheet.Function.Arithmetic
import Worksheet.Function.Basic
import Worksheet.Function.Library
import Worksheet.Function.Logic
import Worksheet.Function.Text
import Worksheet.Graph.Basic
import Worksheet.Graph.Component
import Worksheet.Graph.Cycle
import Worksheet.Graph.DepthFirst
import Worksheet.Graph.Order
import Worksheet.Graph.Reach
import Worksheet.Json.Basic
import Worksheet.Json.Codec
import Worksheet.Json.Numeral
import Worksheet.Json.Reader
import Worksheet.Json.Token
import Worksheet.Json.Writer
import Worksheet.Main
import Worksheet.Number.Decimal
import Worksheet.Number.Layout
import Worksheet.Number.Rounding
import Worksheet.Pattern.Basic
import Worksheet.Pattern.CharSet
import Worksheet.Pattern.Engine
import Worksheet.Pattern.Folding
import Worksheet.Pattern.Language
import Worksheet.Pattern.Match
import Worksheet.Pattern.Property
import Worksheet.Pattern.Property.Age
import Worksheet.Pattern.Property.AgeTable
import Worksheet.Pattern.Property.Binary
import Worksheet.Pattern.Property.BinaryTable
import Worksheet.Pattern.Property.Break
import Worksheet.Pattern.Property.Category
import Worksheet.Pattern.Property.CategoryTable
import Worksheet.Pattern.Property.Script
import Worksheet.Pattern.Property.ScriptTable
import Worksheet.Pattern.Ranges
import Worksheet.Pattern.Reader
import Worksheet.Pattern.Size
import Worksheet.Pattern.Tree
import Worksheet.Proofs.Command.Check
import Worksheet.Proofs.Command.Eval
import Worksheet.Proofs.Command.Recalc
import Worksheet.Proofs.Context.Json
import Worksheet.Proofs.Context.Values
import Worksheet.Proofs.Field.Binding
import Worksheet.Proofs.Field.Duplicate
import Worksheet.Proofs.Field.Json
import Worksheet.Proofs.Field.Listing
import Worksheet.Proofs.Field.RoundTrip
import Worksheet.Proofs.Formula.Average
import Worksheet.Proofs.Formula.Blame
import Worksheet.Proofs.Formula.Completeness
import Worksheet.Proofs.Formula.Depth
import Worksheet.Proofs.Formula.Errors
import Worksheet.Proofs.Formula.Gathering
import Worksheet.Proofs.Formula.Grammar
import Worksheet.Proofs.Formula.Lexeme
import Worksheet.Proofs.Formula.Locality
import Worksheet.Proofs.Formula.Lookahead
import Worksheet.Proofs.Formula.Loops
import Worksheet.Proofs.Formula.Numeral
import Worksheet.Proofs.Formula.Offset
import Worksheet.Proofs.Formula.Parsing
import Worksheet.Proofs.Formula.Pieces
import Worksheet.Proofs.Formula.Progress
import Worksheet.Proofs.Formula.References
import Worksheet.Proofs.Formula.Render
import Worksheet.Proofs.Formula.Scan
import Worksheet.Proofs.Formula.Soundness
import Worksheet.Proofs.Formula.Values
import Worksheet.Proofs.Function.Closure
import Worksheet.Proofs.Function.Guard
import Worksheet.Proofs.Function.Library
import Worksheet.Proofs.Graph.Canonical
import Worksheet.Proofs.Graph.Component
import Worksheet.Proofs.Graph.Cycle
import Worksheet.Proofs.Graph.DepthFirst
import Worksheet.Proofs.Graph.Edges
import Worksheet.Proofs.Graph.Layer
import Worksheet.Proofs.Graph.Order
import Worksheet.Proofs.Graph.Reach
import Worksheet.Proofs.Json.Codec
import Worksheet.Proofs.Json.Number
import Worksheet.Proofs.Json.Reader
import Worksheet.Proofs.Json.Scan
import Worksheet.Proofs.Json.Sound
import Worksheet.Proofs.Number.Binary
import Worksheet.Proofs.Number.Count
import Worksheet.Proofs.Number.Decimal
import Worksheet.Proofs.Number.Finite
import Worksheet.Proofs.Number.Rounding
import Worksheet.Proofs.Number.Scientific
import Worksheet.Proofs.Outcome
import Worksheet.Proofs.Pattern.Class
import Worksheet.Proofs.Pattern.Content
import Worksheet.Proofs.Pattern.Engine
import Worksheet.Proofs.Pattern.Escape
import Worksheet.Proofs.Pattern.Group
import Worksheet.Proofs.Pattern.Match
import Worksheet.Proofs.Pattern.Proper
import Worksheet.Proofs.Pattern.Steady
import Worksheet.Proofs.Pattern.Whole
import Worksheet.Proofs.Place
import Worksheet.Proofs.Sheet.Affected
import Worksheet.Proofs.Sheet.Commutation
import Worksheet.Proofs.Sheet.Errors
import Worksheet.Proofs.Sheet.File
import Worksheet.Proofs.Sheet.Incremental
import Worksheet.Proofs.Sheet.Locality
import Worksheet.Proofs.Sheet.Order
import Worksheet.Proofs.Sheet.Sequence
import Worksheet.Proofs.Sheet.Solution
import Worksheet.Proofs.Sheet.Stats
import Worksheet.Proofs.Sheet.Values
import Worksheet.Proofs.Validation.Binding
import Worksheet.Proofs.Validation.Pattern
import Worksheet.Proofs.Value
import Worksheet.Sheet.Basic
import Worksheet.Sheet.Calculation
import Worksheet.Sheet.File
import Worksheet.Unicode.Blank
import Worksheet.Unicode.Case
import Worksheet.Unicode.CaseRun
import Worksheet.Unicode.CaseTable
import Worksheet.Unicode.CodeSet
import Worksheet.Unicode.Letter
import Worksheet.Unicode.LetterTable
import Worksheet.Validation
import Worksheet.Value
