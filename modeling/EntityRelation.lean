import EntityRelation.Arrangement.Force
import EntityRelation.Arrangement.Grid
import EntityRelation.Arrangement.Order
import EntityRelation.Arrangement.Vector
import EntityRelation.Command.Arguments
import EntityRelation.Command.Directory
import EntityRelation.Command.Run
import EntityRelation.Config
import EntityRelation.Ddl.Clause
import EntityRelation.Ddl.Column
import EntityRelation.Ddl.Constraint
import EntityRelation.Ddl.Finding
import EntityRelation.Ddl.Import
import EntityRelation.Ddl.Lexer
import EntityRelation.Ddl.Statement
import EntityRelation.Ddl.Table
import EntityRelation.Ddl.Token
import EntityRelation.Decimal.Basic
import EntityRelation.Decimal.FloatText
import EntityRelation.Decimal.Nearest
import EntityRelation.Decimal.Shortest
import EntityRelation.Diagram.Basic
import EntityRelation.Diagram.Wire
import EntityRelation.Dialect.Basic
import EntityRelation.Dialect.Reserved
import EntityRelation.Dialect.Serial
import EntityRelation.Edit.IdSupply
import EntityRelation.Edit.Operation
import EntityRelation.Edit.Rejection
import EntityRelation.Edit.Schema
import EntityRelation.Edit.Slot
import EntityRelation.Environment.Basic
import EntityRelation.Environment.Line
import EntityRelation.Environment.SettingsFile
import EntityRelation.FirstMatch
import EntityRelation.Generation.Intake
import EntityRelation.Generation.Request
import EntityRelation.Json.Basic
import EntityRelation.Json.Decode
import EntityRelation.Json.Number
import EntityRelation.Json.Printer
import EntityRelation.Json.Reader
import EntityRelation.Main
import EntityRelation.Project.Basic
import EntityRelation.Project.Instant
import EntityRelation.Project.Repository
import EntityRelation.Project.Uuid
import EntityRelation.Proofs.CreationOrder
import EntityRelation.Proofs.Ddl.Accounting
import EntityRelation.Proofs.Ddl.Anonymous
import EntityRelation.Proofs.Ddl.ColumnReading
import EntityRelation.Proofs.Ddl.ColumnTexts
import EntityRelation.Proofs.Ddl.CursorStatements
import EntityRelation.Proofs.Ddl.Findings
import EntityRelation.Proofs.Ddl.ImportedOrder
import EntityRelation.Proofs.Ddl.ImportedScript
import EntityRelation.Proofs.Ddl.ImportedTables
import EntityRelation.Proofs.Ddl.ImportedTexts
import EntityRelation.Proofs.Ddl.KeyColumns
import EntityRelation.Proofs.Ddl.KeyOrder
import EntityRelation.Proofs.Ddl.Layout
import EntityRelation.Proofs.Ddl.LeftOut
import EntityRelation.Proofs.Ddl.LinksByName
import EntityRelation.Proofs.Ddl.ModifierOrder
import EntityRelation.Proofs.Ddl.NumberedColumns
import EntityRelation.Proofs.Ddl.Numbering
import EntityRelation.Proofs.Ddl.PrimaryKeys
import EntityRelation.Proofs.Ddl.ScriptTables
import EntityRelation.Proofs.Ddl.SimpleColumn
import EntityRelation.Proofs.Ddl.SpellingsAgree
import EntityRelation.Proofs.Ddl.StatementOrder
import EntityRelation.Proofs.Ddl.TopLevelRuns
import EntityRelation.Proofs.Decimal.FloatOrder
import EntityRelation.Proofs.DefinitionOrder
import EntityRelation.Proofs.Diagram.Conversion
import EntityRelation.Proofs.Diagram.Gesture
import EntityRelation.Proofs.Edit.Cascade
import EntityRelation.Proofs.Edit.Entity
import EntityRelation.Proofs.Edit.Field
import EntityRelation.Proofs.Edit.FreePlace
import EntityRelation.Proofs.Edit.Operation
import EntityRelation.Proofs.Edit.Preservation
import EntityRelation.Proofs.Edit.Relationship
import EntityRelation.Proofs.Edit.Reversal
import EntityRelation.Proofs.Edit.Runs
import EntityRelation.Proofs.Generation.Intake
import EntityRelation.Proofs.RoundTrip
import EntityRelation.Proofs.Schema.ForeignKeyView
import EntityRelation.Proofs.Schema.Lookup
import EntityRelation.Proofs.Schema.Placement
import EntityRelation.Proofs.Schema.ViewOfRelationships
import EntityRelation.Proofs.Schema.WellFormed
import EntityRelation.Proofs.Script.Contents
import EntityRelation.Proofs.Script.HiddenIds
import EntityRelation.Proofs.Script.IndexNames
import EntityRelation.Proofs.Session.Closed
import EntityRelation.Proofs.Session.InStep
import EntityRelation.Proofs.Session.SavedScript
import EntityRelation.Proofs.Session.SharedRepository
import EntityRelation.Proofs.Session.Timeline
import EntityRelation.Proofs.Source.Positions
import EntityRelation.Proofs.StoredForms
import EntityRelation.Proofs.Text.Numeral
import EntityRelation.Proofs.Text.Trim
import EntityRelation.Proofs.Validation.Acceptance
import EntityRelation.Proofs.Validation.NameClash
import EntityRelation.Proofs.Validation.PlainWord
import EntityRelation.Proofs.Validation.Referential
import EntityRelation.Proofs.Validation.WellFormed
import EntityRelation.Schema.Basic
import EntityRelation.Schema.ForeignKeys
import EntityRelation.Schema.Wire
import EntityRelation.Script.Basic
import EntityRelation.Script.Render
import EntityRelation.Session.Basic
import EntityRelation.Session.Edit
import EntityRelation.Session.History
import EntityRelation.Session.Workspace
import EntityRelation.Source.LineStarts
import EntityRelation.Source.Place
import EntityRelation.Source.Position
import EntityRelation.Syntax.Check
import EntityRelation.Syntax.Column
import EntityRelation.Syntax.DataType
import EntityRelation.Syntax.Diagnostic
import EntityRelation.Syntax.Error
import EntityRelation.Syntax.Expression
import EntityRelation.Syntax.Lexer
import EntityRelation.Syntax.Lexicon
import EntityRelation.Syntax.Literal
import EntityRelation.Syntax.Query
import EntityRelation.Syntax.Reading
import EntityRelation.Syntax.Statement
import EntityRelation.Syntax.Table
import EntityRelation.Syntax.Token
import EntityRelation.Syntax.Value
import EntityRelation.Text.Blank
import EntityRelation.Text.Bytes
import EntityRelation.Text.Case
import EntityRelation.Text.CaseTable
import EntityRelation.Text.Digit
import EntityRelation.Text.Letter
import EntityRelation.Text.Printable
import EntityRelation.Text.Ranges
import EntityRelation.Text.Search
import EntityRelation.Validation.Issue
import EntityRelation.Validation.Name
import EntityRelation.Validation.Validator
