import Pushdown.Calendar
import Pushdown.Client
import Pushdown.Condition
import Pushdown.Config
import Pushdown.Connector
import Pushdown.Database
import Pushdown.Dialect
import Pushdown.Discovery
import Pushdown.Domain
import Pushdown.EnvFile
import Pushdown.EnvFile.Line
import Pushdown.EnvFile.Reference
import Pushdown.Error
import Pushdown.Field
import Pushdown.Literal
import Pushdown.LogicalType
import Pushdown.NamePolicy
import Pushdown.Named
import Pushdown.Number.Double
import Pushdown.Number.Lenient
import Pushdown.Number.Numeral
import Pushdown.Number.Shortest
import Pushdown.Oracle.Address
import Pushdown.Oracle.Client
import Pushdown.Oracle.Dictionary
import Pushdown.Oracle.Engine
import Pushdown.Oracle.Types
import Pushdown.Predicates
import Pushdown.Proofs.Address
import Pushdown.Proofs.Backends
import Pushdown.Proofs.Batches
import Pushdown.Proofs.Calendar
import Pushdown.Proofs.CalendarLiterals
import Pushdown.Proofs.CalendarText
import Pushdown.Proofs.Case
import Pushdown.Proofs.ColumnTypes
import Pushdown.Proofs.Columns
import Pushdown.Proofs.Condition
import Pushdown.Proofs.ConditionText
import Pushdown.Proofs.Connections
import Pushdown.Proofs.DataTypes
import Pushdown.Proofs.Delivery
import Pushdown.Proofs.Discovery
import Pushdown.Proofs.Display
import Pushdown.Proofs.Doubles
import Pushdown.Proofs.Encoding
import Pushdown.Proofs.Except
import Pushdown.Proofs.ExcludedNames
import Pushdown.Proofs.Find
import Pushdown.Proofs.Gregorian
import Pushdown.Proofs.Hiding
import Pushdown.Proofs.IntegerText
import Pushdown.Proofs.Interleaving
import Pushdown.Proofs.Leaks
import Pushdown.Proofs.Ledger
import Pushdown.Proofs.Listing
import Pushdown.Proofs.Literal
import Pushdown.Proofs.Membership
import Pushdown.Proofs.Metadata
import Pushdown.Proofs.NamePolicy
import Pushdown.Proofs.NameSet
import Pushdown.Proofs.Nearest
import Pushdown.Proofs.Numeral
import Pushdown.Proofs.Opening
import Pushdown.Proofs.Operands
import Pushdown.Proofs.Overflow
import Pushdown.Proofs.Quoting
import Pushdown.Proofs.Range
import Pushdown.Proofs.ReadBack
import Pushdown.Proofs.Rendering
import Pushdown.Proofs.Resolution
import Pushdown.Proofs.Run
import Pushdown.Proofs.Scans
import Pushdown.Proofs.Selection
import Pushdown.Proofs.Shortest
import Pushdown.Proofs.Spelling
import Pushdown.Proofs.Sql.Formula
import Pushdown.Proofs.Sql.Lexing
import Pushdown.Proofs.Sql.Parsing
import Pushdown.Proofs.Sql.Row
import Pushdown.Proofs.Sql.Token
import Pushdown.Proofs.Statement
import Pushdown.Proofs.Template
import Pushdown.Proofs.Timestamps
import Pushdown.Proofs.Trim
import Pushdown.Proofs.TypeNames
import Pushdown.Proofs.Unconstrained
import Pushdown.Proofs.Utf8
import Pushdown.Range
import Pushdown.Records
import Pushdown.Run
import Pushdown.ScanStatement
import Pushdown.Session
import Pushdown.Table
import Pushdown.Template
import Pushdown.Template.Layout
import Pushdown.Template.Number
import Pushdown.Template.Slot
import Pushdown.Text.Blank
import Pushdown.Text.Case
import Pushdown.Text.CaseContext
import Pushdown.Text.CaseTable
import Pushdown.Text.Digit
import Pushdown.Text.Doubling
import Pushdown.Text.Escape
import Pushdown.Text.Find
import Pushdown.Text.NameSet
import Pushdown.Text.Printable
import Pushdown.Text.Span
import Pushdown.TypeCode
import Pushdown.TypeMapper
import Pushdown.Value
