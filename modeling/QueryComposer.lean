import QueryComposer.Connection.Scripted
import QueryComposer.Database.Insertion
import QueryComposer.Driver.Document
import QueryComposer.Driver.Packaged
import QueryComposer.Error.Report
import QueryComposer.Proofs.Association
import QueryComposer.Proofs.Binding.Appends
import QueryComposer.Proofs.Binding.Refuses
import QueryComposer.Proofs.Binding.Related
import QueryComposer.Proofs.Binding.Whole
import QueryComposer.Proofs.Binding.Yields
import QueryComposer.Proofs.Connection.Alike
import QueryComposer.Proofs.Connection.Calls
import QueryComposer.Proofs.Connection.Cursors
import QueryComposer.Proofs.Connection.LastError
import QueryComposer.Proofs.Connection.Opening
import QueryComposer.Proofs.Connection.Parallel
import QueryComposer.Proofs.Connection.Preserves
import QueryComposer.Proofs.Connection.Raises
import QueryComposer.Proofs.Database.Balanced
import QueryComposer.Proofs.Database.Confidential
import QueryComposer.Proofs.Database.Conversation
import QueryComposer.Proofs.Database.Cursors
import QueryComposer.Proofs.Database.Insertion
import QueryComposer.Proofs.Database.LastError
import QueryComposer.Proofs.Database.Move
import QueryComposer.Proofs.Database.Opening
import QueryComposer.Proofs.Database.Operation
import QueryComposer.Proofs.Database.Placeholders
import QueryComposer.Proofs.Database.Program
import QueryComposer.Proofs.Database.Refusals
import QueryComposer.Proofs.Database.Rows
import QueryComposer.Proofs.Driver.Layered
import QueryComposer.Proofs.Driver.Named
import QueryComposer.Proofs.Filter.Acceptable
import QueryComposer.Proofs.Filter.Compilation
import QueryComposer.Proofs.Filter.Conjunction
import QueryComposer.Proofs.Filter.Effective
import QueryComposer.Proofs.Filter.Key
import QueryComposer.Proofs.Filter.Language
import QueryComposer.Proofs.Filter.Normal
import QueryComposer.Proofs.Filter.Owned
import QueryComposer.Proofs.Filter.Placed
import QueryComposer.Proofs.Filter.Readback
import QueryComposer.Proofs.Filter.Renoted
import QueryComposer.Proofs.Filter.Respelled
import QueryComposer.Proofs.Filter.SameShape
import QueryComposer.Proofs.Filter.SameText
import QueryComposer.Proofs.Filter.Spelled
import QueryComposer.Proofs.Filter.Traversal
import QueryComposer.Proofs.Filter.Written
import QueryComposer.Proofs.Identifier.Grammar
import QueryComposer.Proofs.Identifier.Recursion
import QueryComposer.Proofs.Identifier.Unquoted
import QueryComposer.Proofs.Log.Loggable
import QueryComposer.Proofs.Log.Rendered
import QueryComposer.Proofs.Placeholder.Aligned
import QueryComposer.Proofs.Placeholder.Names
import QueryComposer.Proofs.Placeholder.Regions
import QueryComposer.Proofs.Redaction.Masked
import QueryComposer.Proofs.Redaction.Projection
import QueryComposer.Proofs.Statement.Accepted
import QueryComposer.Proofs.Statement.Division
import QueryComposer.Proofs.Statement.Effective
import QueryComposer.Proofs.Statement.Equality
import QueryComposer.Proofs.Statement.Placed
import QueryComposer.Proofs.Statement.Refusals
import QueryComposer.Proofs.Statement.Respelled
import QueryComposer.Proofs.Statement.Row
import QueryComposer.Proofs.Statement.SameRow
import QueryComposer.Proofs.Statement.SameText
import QueryComposer.Proofs.Statement.Upsert
import QueryComposer.Proofs.Success
import QueryComposer.Proofs.Table.Joined
import QueryComposer.Proofs.Table.Respelled
import QueryComposer.Proofs.Table.Scope
import QueryComposer.Proofs.Table.Spelled
import QueryComposer.Proofs.Text.Capital
import QueryComposer.Proofs.Text.Spaced
import QueryComposer.Proofs.Text.Variant
import QueryComposer.Proofs.Transaction.Accounts
import QueryComposer.Proofs.Transaction.Marks
import QueryComposer.Proofs.Transaction.Simulation
import QueryComposer.Proofs.Value.Key
import QueryComposer.Transaction.Tracker
