import SchemaTypes.Command.Arguments
import SchemaTypes.Command.Run
import SchemaTypes.Declaration.Basic
import SchemaTypes.Declaration.Json
import SchemaTypes.Declaration.OfTree
import SchemaTypes.Declaration.Reading
import SchemaTypes.Emit.Barrel
import SchemaTypes.Emit.Convo
import SchemaTypes.Emit.Documents
import SchemaTypes.Emit.Layout
import SchemaTypes.Emit.TypeScript
import SchemaTypes.Emit.Zod
import SchemaTypes.File.Path
import SchemaTypes.File.System
import SchemaTypes.Generate.Artifact
import SchemaTypes.Generate.Event
import SchemaTypes.Generate.Failure
import SchemaTypes.Generate.Run
import SchemaTypes.Generate.Settings
import SchemaTypes.Generate.Source
import SchemaTypes.Json.Basic
import SchemaTypes.Json.Binary64
import SchemaTypes.Json.Decode
import SchemaTypes.Json.Order
import SchemaTypes.Json.Printer
import SchemaTypes.Json.Reader
import SchemaTypes.Main
import SchemaTypes.Model.Basic
import SchemaTypes.Model.Build
import SchemaTypes.Model.Comment
import SchemaTypes.Model.Json
import SchemaTypes.Model.Naming
import SchemaTypes.Model.TableMap
import SchemaTypes.Proofs.Fields
import SchemaTypes.Proofs.Model.DeclarationOrder
import SchemaTypes.Proofs.Model.Gathering
import SchemaTypes.Proofs.Sorting
import SchemaTypes.Proofs.TypeMap.Registration
import SchemaTypes.Sql.Dialect
import SchemaTypes.Sql.Grammar.Call
import SchemaTypes.Sql.Grammar.Clause
import SchemaTypes.Sql.Grammar.Constraint
import SchemaTypes.Sql.Grammar.Expression
import SchemaTypes.Sql.Grammar.Function
import SchemaTypes.Sql.Grammar.Item
import SchemaTypes.Sql.Grammar.Operand
import SchemaTypes.Sql.Grammar.Parse
import SchemaTypes.Sql.Grammar.Property
import SchemaTypes.Sql.Grammar.Query
import SchemaTypes.Sql.Grammar.Rule
import SchemaTypes.Sql.Grammar.Table
import SchemaTypes.Sql.Grammar.Type
import SchemaTypes.Sql.Grammar.Word
import SchemaTypes.Sql.Lexer
import SchemaTypes.Sql.Statement
import SchemaTypes.Sql.Token
import SchemaTypes.Sql.Tree
import SchemaTypes.Text.Blank
import SchemaTypes.Text.Case
import SchemaTypes.Text.CaseTable
import SchemaTypes.Text.DigitTable
import SchemaTypes.Text.Lines
import SchemaTypes.Text.PrintTable
import SchemaTypes.Text.Quoted
import SchemaTypes.Text.Slice
import SchemaTypes.Text.Word
import SchemaTypes.Text.WordTable
import SchemaTypes.TypeMap.Basic
import SchemaTypes.TypeMap.Canonical
import SchemaTypes.TypeMap.File
import SchemaTypes.TypeMap.Mapping
import SchemaTypes.Proofs.Emit.Blocks
import SchemaTypes.Proofs.Model.EnumColumns
import SchemaTypes.Proofs.Declaration.TableElements
import SchemaTypes.Proofs.Model.Optionality
import SchemaTypes.Proofs.Sql.FieldTrees
import SchemaTypes.Proofs.Sql.TypeTrees
import SchemaTypes.Proofs.Sql.ElementTrees
import SchemaTypes.Proofs.Declaration.Completeness
import SchemaTypes.Proofs.Runs
import SchemaTypes.Proofs.Model.CommentFragments
import SchemaTypes.Proofs.Generate.TablespaceClauses
import SchemaTypes.Proofs.Sql.Spans
import SchemaTypes.Proofs.Declaration.Extents
import SchemaTypes.Proofs.Sql.Shift
import SchemaTypes.Proofs.Declaration.Shift
import SchemaTypes.Proofs.Generate.Fragments
import SchemaTypes.Proofs.Text.LowerCase
import SchemaTypes.Proofs.TypeMap.Canonical
import SchemaTypes.Proofs.TypeMap.Overriding
import SchemaTypes.Proofs.TypeMap.History
import SchemaTypes.Proofs.TypeMap.LastWrite
import SchemaTypes.Proofs.Json.Order
import SchemaTypes.Proofs.Json.Literals
import SchemaTypes.Proofs.Json.RoundTrip
import SchemaTypes.Proofs.TypeMap.Reloading
import SchemaTypes.Proofs.Model.TableNames
import SchemaTypes.Proofs.Model.Additions
import SchemaTypes.Proofs.Model.Variants
import SchemaTypes.Proofs.Model.Rebuilding
import SchemaTypes.Proofs.Sql.StatementRuns
import SchemaTypes.Proofs.Declaration.Isolation
import SchemaTypes.Proofs.Emit.TypeDocuments
import SchemaTypes.Proofs.File.Entries
import SchemaTypes.Proofs.Generate.Session
import SchemaTypes.Proofs.Generate.Writers
import SchemaTypes.Proofs.Generate.Sequence
import SchemaTypes.Proofs.Generate.Schedules
import SchemaTypes.Proofs.Generate.InputsFirst
import SchemaTypes.Proofs.Json.Canonical
import SchemaTypes.Proofs.Model.CommentLines
import SchemaTypes.Proofs.Model.CommentOwners
import SchemaTypes.Proofs.Declaration.ColumnSpans
import SchemaTypes.Proofs.Declaration.EnumStatements
import SchemaTypes.Proofs.Emit.ArrayLevels
import SchemaTypes.Proofs.Model.TableEntries
import SchemaTypes.Proofs.Emit.CommentEnds
import SchemaTypes.Proofs.Emit.EnumValues
import SchemaTypes.Proofs.Emit.PropertyKeys
import SchemaTypes.Proofs.File.RelativePaths
import SchemaTypes.Proofs.Emit.Specifiers
import SchemaTypes.Proofs.Model.RecordOrder
import SchemaTypes.Proofs.TypeMap.DocumentOrder
import SchemaTypes.Proofs.Model.SnakeCase
import SchemaTypes.Proofs.Emit.MarkedLines
