import SqlBuilder.Dialect.Call
import SqlBuilder.Dialect.Hook
import SqlBuilder.Driver.Scripted
import SqlBuilder.EventTracking
import SqlBuilder.Listeners.Named
import SqlBuilder.Log.Correlation
import SqlBuilder.Query.Call
import SqlBuilder.Schema.Call
import SqlBuilder.Transaction.Program
import SqlBuilder.Transaction.Rehearsal
import SqlBuilder.Proofs.Recorded.Outcome
import SqlBuilder.Proofs.Dialect.References
import SqlBuilder.Proofs.Sql.Placeholder
import SqlBuilder.Proofs.Dialect.Written
import SqlBuilder.Proofs.Filter.Lookups
import SqlBuilder.Proofs.Filter.Placement
import SqlBuilder.Proofs.Query.Placement
import SqlBuilder.Proofs.Filter.Meaning
import SqlBuilder.Proofs.Query.Restriction
import SqlBuilder.Proofs.Query.Refinement
import SqlBuilder.Proofs.Transaction.Rehearsal
import SqlBuilder.Proofs.Transaction.Bracketing
import SqlBuilder.Proofs.Transaction.Projection
import SqlBuilder.Proofs.Schema.PrimaryKey
import SqlBuilder.Proofs.Run.Sequence
import SqlBuilder.Proofs.Session.Booked
import SqlBuilder.Proofs.Transaction.Leaving
import SqlBuilder.Proofs.Session.History
import SqlBuilder.Proofs.Session.Exchange
import SqlBuilder.Proofs.Session.Loss
import SqlBuilder.Proofs.Session.Order
import SqlBuilder.Proofs.Schema.Catalog
import SqlBuilder.Proofs.Name.Bare
import SqlBuilder.Proofs.Query.Plucking
import SqlBuilder.Proofs.Schema.Building
import SqlBuilder.Proofs.Schema.Constants
import SqlBuilder.Proofs.Schema.Entries
import SqlBuilder.Proofs.Schema.Ingredients
import SqlBuilder.Proofs.Schema.Layout
import SqlBuilder.Proofs.Schema.Placeholders
import SqlBuilder.Proofs.Text.Cutting
import SqlBuilder.Proofs.Uri.Percent
import SqlBuilder.Proofs.Uri.Composition
import SqlBuilder.Proofs.Uri.Query
import SqlBuilder.Proofs.Redaction.Exposure
import SqlBuilder.Proofs.Session.Logging
import SqlBuilder.Proofs.Connection.Concealment
import SqlBuilder.Proofs.Session.Connecting
import SqlBuilder.Proofs.Schema.Distinction
import SqlBuilder.Proofs.Query.Comparisons
import SqlBuilder.Proofs.Connection.Settings
import SqlBuilder.Proofs.Connection.Precedence
import SqlBuilder.Proofs.Connection.ParameterStyle
import SqlBuilder.Proofs.Text.Utf8
import SqlBuilder.Proofs.Uri.Escaping
import SqlBuilder.Proofs.Uri.Form
import SqlBuilder.Proofs.Text.Lowering
import SqlBuilder.Proofs.Uri.Acceptance
import SqlBuilder.Proofs.Uri.Host
import SqlBuilder.Proofs.Uri.Rejoining
import SqlBuilder.Proofs.Connection.Rereading
import SqlBuilder.Proofs.EventTracking.Cleanup
import SqlBuilder.Proofs.Query.WrittenColumns
import SqlBuilder.Proofs.Dialect.Folding
import SqlBuilder.Proofs.Dialect.Hooked
import SqlBuilder.Proofs.Filter.Hooked
import SqlBuilder.Proofs.Query.Hooked
import SqlBuilder.Proofs.Query.EmptyInsert
import SqlBuilder.Proofs.Query.RowCount
import SqlBuilder.Proofs.Filter.Operands
import SqlBuilder.Proofs.Filter.Keys
import SqlBuilder.Proofs.Text.Patterns
import SqlBuilder.Proofs.Filter.TextLookups
import SqlBuilder.Proofs.Query.Returning
import SqlBuilder.Proofs.Query.Fragments
import SqlBuilder.Proofs.Query.Chaining
import SqlBuilder.Proofs.Schema.Columns
import SqlBuilder.Proofs.Schema.Alteration
import SqlBuilder.Proofs.Number.Numeral
import SqlBuilder.Proofs.Sql.Words
import SqlBuilder.Proofs.Schema.Nullability
import SqlBuilder.Proofs.Sql.Lexeme
import SqlBuilder.Proofs.Schema.Literals
import SqlBuilder.Proofs.Text.Recasing
import SqlBuilder.Proofs.Name.Lowering
import SqlBuilder.Proofs.Name.Joining
import SqlBuilder.Proofs.Dialect.Joining
import SqlBuilder.Proofs.Schema.DefaultNames
import SqlBuilder.Proofs.Schema.NameCollision
import SqlBuilder.Proofs.Redaction.Spelling
import SqlBuilder.Proofs.Response.Casing
import SqlBuilder.Proofs.Schema.Descriptions
import SqlBuilder.Proofs.Connection.UserAlias
import SqlBuilder.Proofs.Connection.Parameters
import SqlBuilder.Proofs.Connection.Components
import SqlBuilder.Proofs.Text.Skipping
import SqlBuilder.Proofs.Redaction.Leaves
import SqlBuilder.Proofs.Name.Atoms
