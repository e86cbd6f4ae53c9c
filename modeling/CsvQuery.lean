import CsvQuery.Aggregation
import CsvQuery.Arguments
import CsvQuery.Command
import CsvQuery.Csv
import CsvQuery.Error
import CsvQuery.Expectation
import CsvQuery.Export
import CsvQuery.Expr
import CsvQuery.Expr.Eval
import CsvQuery.Expr.Reader
import CsvQuery.Files
import CsvQuery.Grid
import CsvQuery.History
import CsvQuery.Json
import CsvQuery.LineAssembler
import CsvQuery.Log
import CsvQuery.Main
import CsvQuery.Options
import CsvQuery.Plan
import CsvQuery.Plan.Step
import CsvQuery.Program
import CsvQuery.Proofs.Command
import CsvQuery.Proofs.Csv.RoundTrip
import CsvQuery.Proofs.Export
import CsvQuery.Proofs.Expr.Canonical
import CsvQuery.Proofs.Expr.DerivedForms
import CsvQuery.Proofs.Expr.Equality
import CsvQuery.Proofs.Expr.Language
import CsvQuery.Proofs.Expr.Literals
import CsvQuery.Proofs.Expr.Precedence
import CsvQuery.Proofs.Files.Listing
import CsvQuery.Proofs.Files.Paths
import CsvQuery.Proofs.Files.Writing
import CsvQuery.Proofs.Grid.Filling
import CsvQuery.Proofs.Grid.Rendering
import CsvQuery.Proofs.Json.RoundTrip
import CsvQuery.Proofs.LineAssembler
import CsvQuery.Proofs.Outcome
import CsvQuery.Proofs.Query.Answer
import CsvQuery.Proofs.Query.BaseDirectory
import CsvQuery.Proofs.Query.CellOrder
import CsvQuery.Proofs.Query.Clauses
import CsvQuery.Proofs.Query.Execution
import CsvQuery.Proofs.Query.Extremes
import CsvQuery.Proofs.Query.Failures
import CsvQuery.Proofs.Query.GroupKeys
import CsvQuery.Proofs.Query.Grouping
import CsvQuery.Proofs.Query.Headers
import CsvQuery.Proofs.Query.Layout
import CsvQuery.Proofs.Query.Lookup
import CsvQuery.Proofs.Query.Matching
import CsvQuery.Proofs.Query.Names
import CsvQuery.Proofs.Query.Needed
import CsvQuery.Proofs.Query.NestedLoop
import CsvQuery.Proofs.Query.OrderBy
import CsvQuery.Proofs.Query.Partition
import CsvQuery.Proofs.Query.PastErrors
import CsvQuery.Proofs.Query.Planned
import CsvQuery.Proofs.Query.Positions
import CsvQuery.Proofs.Query.Records
import CsvQuery.Proofs.Query.Sorting
import CsvQuery.Proofs.Query.StableOrder
import CsvQuery.Proofs.Query.Steps
import CsvQuery.Proofs.Query.Sums
import CsvQuery.Proofs.Query.Tables
import CsvQuery.Proofs.Session
import CsvQuery.Proofs.Source.Delivered
import CsvQuery.Proofs.Source.Failing
import CsvQuery.Proofs.Source.Items
import CsvQuery.Proofs.Source.Needed
import CsvQuery.Proofs.Source.Produced
import CsvQuery.Proofs.Source.Settled
import CsvQuery.Proofs.Statement.Complete
import CsvQuery.Proofs.Statement.FirstError
import CsvQuery.Proofs.Statement.Grammar
import CsvQuery.Proofs.Statement.Language
import CsvQuery.Proofs.Statement.Parts
import CsvQuery.Proofs.Statement.RoundTrip
import CsvQuery.Proofs.Statement.Run
import CsvQuery.Proofs.Statement.Sound
import CsvQuery.Proofs.Table.Columns
import CsvQuery.Proofs.Table.Names
import CsvQuery.Proofs.Text.Blank
import CsvQuery.Proofs.Text.Integer
import CsvQuery.Proofs.Text.Utf8
import CsvQuery.Proofs.Token.Concatenation
import CsvQuery.Proofs.Token.Faults
import CsvQuery.Proofs.Token.Lexing
import CsvQuery.Proofs.Token.Names
import CsvQuery.Proofs.Token.Pieces
import CsvQuery.Proofs.Token.Spelling
import CsvQuery.Proofs.Token.Tiling
import CsvQuery.Proofs.Value
import CsvQuery.Proofs.Variables
import CsvQuery.Proofs.Variables.Unwritten
import CsvQuery.Query
import CsvQuery.Row
import CsvQuery.Schema
import CsvQuery.Shell
import CsvQuery.SortKey
import CsvQuery.Sorter
import CsvQuery.Source
import CsvQuery.Statement
import CsvQuery.Statement.Reader
import CsvQuery.Table
import CsvQuery.Table.Scan
import CsvQuery.Text.Blank
import CsvQuery.Text.Grapheme
import CsvQuery.Text.GraphemeClass
import CsvQuery.Text.Integer
import CsvQuery.Text.Quoted
import CsvQuery.Text.Terminal
import CsvQuery.Text.Typed
import CsvQuery.Text.Utf8
import CsvQuery.Token
import CsvQuery.Token.Cursor
import CsvQuery.Token.Lexer
import CsvQuery.Value
import CsvQuery.Variables
import CsvQuery.Vocabulary
