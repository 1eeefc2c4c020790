import Potfile.Batch
import Potfile.Catalog
import Potfile.Collation
import Potfile.Collation.Contraction
import Potfile.Collation.Element
import Potfile.Collation.Key
import Potfile.Collation.Language
import Potfile.Collation.Root
import Potfile.Collation.Root.Order
import Potfile.Collation.Root.Variant
import Potfile.Collation.Rule
import Potfile.CommandLine
import Potfile.CommandLine.Arguments
import Potfile.Config
import Potfile.Config.File
import Potfile.Decimal.Binary64
import Potfile.Decimal.Shortest
import Potfile.Delimiter
import Potfile.Error
import Potfile.Extractor
import Potfile.FileSystem
import Potfile.FileSystem.Memory
import Potfile.FileSystem.Tree
import Potfile.Glob
import Potfile.Json.Cursor
import Potfile.Json.Error
import Potfile.Json.Number
import Potfile.Json.Text
import Potfile.Json.Value
import Potfile.Locale
import Potfile.LogLevel
import Potfile.Main
import Potfile.Markup.CharacterReference
import Potfile.Markup.Construction
import Potfile.Markup.Construction.Body
import Potfile.Markup.Construction.Foreign
import Potfile.Markup.Construction.Formatting
import Potfile.Markup.Construction.Head
import Potfile.Markup.Construction.Outline
import Potfile.Markup.Construction.Select
import Potfile.Markup.Construction.State
import Potfile.Markup.Construction.Table
import Potfile.Markup.Document
import Potfile.Markup.Element
import Potfile.Markup.EntityTable
import Potfile.Markup.Occurrences
import Potfile.Markup.Serialization
import Potfile.Markup.Token
import Potfile.Markup.Token.Reader
import Potfile.Path
import Potfile.Quoting
import Potfile.Registry
import Potfile.Script.Grammar
import Potfile.Script.Grammar.Expression
import Potfile.Script.Grammar.Function
import Potfile.Script.Grammar.Module
import Potfile.Script.Grammar.Pattern
import Potfile.Script.Grammar.State
import Potfile.Script.Grammar.Statement
import Potfile.Script.Messages
import Potfile.Script.Token
import Potfile.Script.Token.Letters
import Potfile.Script.Token.Number
import Potfile.Script.Token.Reader
import Potfile.Script.Token.Text
import Potfile.Script.Tree
import Potfile.Text.Blank
import Potfile.Text.Decomposition
import Potfile.Text.Decomposition.Class
import Potfile.Text.Decomposition.Mapping
import Potfile.Text.Digits
import Potfile.Text.Literal
import Potfile.Text.Ranges
import Potfile.Text.Utf8
import Potfile.Proofs.Catalog.Reading
import Potfile.Proofs.Catalog.RoundTrip
import Potfile.Proofs.Registry.Conflicts
import Potfile.Proofs.Delimiter.Grammar
import Potfile.Proofs.Delimiter.Scanning
import Potfile.Proofs.Delimiter.Reading
import Potfile.Proofs.Delimiter.Progress
import Potfile.Proofs.Batch.Target
import Potfile.Proofs.Script.Calls
import Potfile.Proofs.Text.Utf8
import Potfile.Proofs.Catalog.Order
import Potfile.Proofs.Extraction
import Potfile.Proofs.Batch.Run
import Potfile.Proofs.Delimiter.Surroundings
import Potfile.Proofs.Extraction.Discovery
import Potfile.Proofs.Extraction.Events
import Potfile.Proofs.Script.Parentheses
import Potfile.Proofs.Script.Evaluation
import Potfile.Proofs.Catalog.Lines
import Potfile.Proofs.Catalog.Headers
import Potfile.Proofs.Catalog.References
import Potfile.Proofs.FileSystem.Calls
import Potfile.Proofs.FileSystem.Tree
import Potfile.Proofs.Batch.Course
import Potfile.Proofs.Batch.Accounting
import Potfile.Proofs.Delimiter.Resumption
import Potfile.Proofs.Delimiter.Embedding
import Potfile.Proofs.Markup.Element
import Potfile.Proofs.Extraction.Reordering
import Potfile.Proofs.Script.Grouping
import Potfile.Proofs.Batch.Contents
