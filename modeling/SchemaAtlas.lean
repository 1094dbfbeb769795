import SchemaAtlas.Text.Blank
import SchemaAtlas.Text.Case
import SchemaAtlas.Text.Digit
import SchemaAtlas.Text.Printable
import SchemaAtlas.Text.Slice
import SchemaAtlas.Text.Word
import SchemaAtlas.Keyed
import SchemaAtlas.Number.Numeral
import SchemaAtlas.Number.Shortest
import SchemaAtlas.Text.Phrase
import SchemaAtlas.Value.Json
import SchemaAtlas.Name.Key
import SchemaAtlas.Name.Qualified
import SchemaAtlas.Name.Snake
import SchemaAtlas.Literal
import SchemaAtlas.Token.Group
import SchemaAtlas.Token.Scan
import SchemaAtlas.Statement.Parser
import SchemaAtlas.Statement.Kind
import SchemaAtlas.Statement.Split
import SchemaAtlas.Insert.Data
import SchemaAtlas.Dialect.Table
import SchemaAtlas.Default.Render
import SchemaAtlas.Dialect.ColumnType
import SchemaAtlas.Table.Read
import SchemaAtlas.Ddl
import SchemaAtlas.Reference.Depth
import SchemaAtlas.Script.Read
import SchemaAtlas.Script.Definitions
import SchemaAtlas.Document.Export
import SchemaAtlas.Settings.Reader
import SchemaAtlas.Settings.Load
import SchemaAtlas.Source.Utf8
import SchemaAtlas.Source.Database
import SchemaAtlas.Log.Reading
import SchemaAtlas.Source.Path
import SchemaAtlas.Source.Files
import SchemaAtlas.Source.Content
import SchemaAtlas.CommandLine.Arguments
import SchemaAtlas.CommandLine.Run
import SchemaAtlas.Engine.Head.Parser
import SchemaAtlas.Engine.Yaml.Document
import SchemaAtlas.Main
import SchemaAtlas.Proofs.Keyed
import SchemaAtlas.Proofs.Text
import SchemaAtlas.Proofs.Phrase
import SchemaAtlas.Proofs.Case
import SchemaAtlas.Proofs.Phrase.Replacing
import SchemaAtlas.Proofs.Name
import SchemaAtlas.Proofs.Name.Snake
import SchemaAtlas.Proofs.Literal
import SchemaAtlas.Proofs.Insert.Cell
import SchemaAtlas.Proofs.Insert.Rows
import SchemaAtlas.Proofs.Insert.Nested
import SchemaAtlas.Proofs.Insert.Agreement
import SchemaAtlas.Proofs.Insert.Written
import SchemaAtlas.Proofs.Insert.Overlong
import SchemaAtlas.Proofs.Insert.Trailing
import SchemaAtlas.Proofs.Statement.Kind
import SchemaAtlas.Proofs.Engine.Head
import SchemaAtlas.Proofs.Statement.Lines
import SchemaAtlas.Proofs.Statement.Layout
import SchemaAtlas.Proofs.Table.Columns
import SchemaAtlas.Proofs.Reference.Calculate
import SchemaAtlas.Proofs.Reference.Walk
import SchemaAtlas.Proofs.Reference.Law
import SchemaAtlas.Proofs.Script.Gather
import SchemaAtlas.Proofs.Script.Data
import SchemaAtlas.Proofs.Script.Rows
import SchemaAtlas.Proofs.Script.Positional
import SchemaAtlas.Proofs.Script.Written
import SchemaAtlas.Proofs.Script.Accepted
import SchemaAtlas.Proofs.Script.Bookkeeping
import SchemaAtlas.Proofs.Script.Outcome
import SchemaAtlas.Proofs.Reference.Order
import SchemaAtlas.Proofs.Reference.Recursion
import SchemaAtlas.Proofs.Reference.Found
import SchemaAtlas.Proofs.CommandLine.TableOrder
import SchemaAtlas.Proofs.Table.Coherent
import SchemaAtlas.Proofs.Token.Reads
import SchemaAtlas.Proofs.Dialect.Spelling
import SchemaAtlas.Proofs.Dialect.Quotes
import SchemaAtlas.Proofs.Source.Import
import SchemaAtlas.Proofs.Token.Number
import SchemaAtlas.Proofs.Token.Group
import SchemaAtlas.Proofs.Token.Nesting
import SchemaAtlas.Proofs.Token.Placed
import SchemaAtlas.Proofs.Table.Attribute
import SchemaAtlas.Proofs.Table.Clause
import SchemaAtlas.Proofs.Table.Body
import SchemaAtlas.Proofs.Table.RoundTrip
import SchemaAtlas.Proofs.Table.Alias
import SchemaAtlas.Proofs.Table.Frame
import SchemaAtlas.Proofs.Table.Preset
import SchemaAtlas.Proofs.Table.Trait
import SchemaAtlas.Proofs.Table.Entry
import SchemaAtlas.Proofs.Table.Arrangement
import SchemaAtlas.Proofs.Statement.Content
import SchemaAtlas.Proofs.Statement.Sequence
import SchemaAtlas.Proofs.Token.Lossless
import SchemaAtlas.Proofs.Table.ListType
import SchemaAtlas.Proofs.Phrase.Search
import SchemaAtlas.Proofs.LeadingComment
import SchemaAtlas.Proofs.Default.Quoted
import SchemaAtlas.Proofs.Default.Whole
import SchemaAtlas.Proofs.Token.Span
import SchemaAtlas.Proofs.Table.NullDefault
import SchemaAtlas.Proofs.Default.Stored
import SchemaAtlas.Proofs.Dialect.TypeText
import SchemaAtlas.Proofs.Dialect.Mapped
import SchemaAtlas.Proofs.Dialect.Truth
import SchemaAtlas.Proofs.Dialect.Stable
import SchemaAtlas.Proofs.Token.Words
import SchemaAtlas.Proofs.Table.Action
import SchemaAtlas.Proofs.Table.Referring
import SchemaAtlas.Proofs.Name.Dotted
import SchemaAtlas.Proofs.Name.Agreement
import SchemaAtlas.Proofs.Insert.QuotedColumns
import SchemaAtlas.Proofs.Source.Alignment
import SchemaAtlas.Proofs.Token.Whole
import SchemaAtlas.Proofs.Table.Relocated
import SchemaAtlas.Proofs.Table.Repeated
import SchemaAtlas.Proofs.Settings.Build
