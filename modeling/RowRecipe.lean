import RowRecipe.Main
import RowRecipe.Csv
import RowRecipe.Config
import RowRecipe.Pipeline
import RowRecipe.Registry
import RowRecipe.Directive.Catalog
import RowRecipe.Directive.Basic
import RowRecipe.Regex
import RowRecipe.Regex.Reading
import RowRecipe.Expression
import RowRecipe.Store
import RowRecipe.Text.Quoted
import RowRecipe.Expression.Token
import RowRecipe.Recipe.Usage
import RowRecipe.Recipe.Token
import RowRecipe.Recipe.Matching
import RowRecipe.Text.Case
import RowRecipe.Text.Pieces
import RowRecipe.Text.Utf8
import RowRecipe.Row
import RowRecipe.Number.Reading
import RowRecipe.Json.Reading
import RowRecipe.Proofs.Fallible
import RowRecipe.Proofs.Stage
import RowRecipe.Proofs.Chunk
import RowRecipe.Proofs.Catalog
import RowRecipe.Proofs.Execution
import RowRecipe.Proofs.Diverting
import RowRecipe.Proofs.Layout
import RowRecipe.Proofs.Distinct
import RowRecipe.Proofs.Conservation
import RowRecipe.Proofs.Rendering
import RowRecipe.Proofs.Composition
import RowRecipe.Proofs.Choice
import RowRecipe.Proofs.Greedy
import RowRecipe.Proofs.Binding
import RowRecipe.Proofs.Tokenizing
import RowRecipe.Proofs.Trimming
import RowRecipe.Proofs.SameTokens
import RowRecipe.Proofs.Continuation
import RowRecipe.Proofs.LineEnds
import RowRecipe.Proofs.Writing
import RowRecipe.Proofs.Listing
import RowRecipe.Proofs.Priority
import RowRecipe.Proofs.ByteOrder
import RowRecipe.Proofs.Documents
import RowRecipe.Proofs.Bytes
import RowRecipe.Proofs.Tables
import RowRecipe.Proofs.JsonText
import RowRecipe.Proofs.Configuration
import RowRecipe.Proofs.ErrorLog
import RowRecipe.Proofs.Variables
import RowRecipe.Proofs.Extension
import RowRecipe.Proofs.Grouping
import RowRecipe.Proofs.NormalLines
import RowRecipe.Proofs.Quoting
import RowRecipe.Proofs.Numbering
import RowRecipe.Proofs.FirstFailure
import RowRecipe.Proofs.OpenQuotes
import RowRecipe.Proofs.Fields
import RowRecipe.Proofs.Delimiters
import RowRecipe.Proofs.HeaderLine
import RowRecipe.Proofs.ExactDocuments
import RowRecipe.Proofs.WholeTexts
import RowRecipe.Proofs.Counting
import RowRecipe.Proofs.Entries
import RowRecipe.Proofs.Visibility
import RowRecipe.Proofs.NormalCells
import RowRecipe.Proofs.SingleNames
import RowRecipe.Proofs.PrintedNumbers
import RowRecipe.Proofs.Retyping
import RowRecipe.Proofs.Items
import RowRecipe.Proofs.Splitting
import RowRecipe.Proofs.Dispatch
import RowRecipe.Proofs.Samples
