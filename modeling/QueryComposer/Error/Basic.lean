import QueryComposer.Connection.Fault
import QueryComposer.Error.Cause
import QueryComposer.Schema.Problem
import QueryComposer.Transaction.Command

namespace QueryComposer

/-!
# Errors

Every error is a cause with what is needed to describe it. `Error.message` gives its wording,
and `Error.kind?` sorts errors into the kinds that callers tell apart.

The errors of arguments are found before a statement is sent; `Error.isArgument` names them.
-/

/-- The kinds of errors that callers tell apart. -/
inductive ErrorKind where
  | invalidArgument
  | invalidDriver
  | emptyValues
  | emptyFilter
  | invalidFilter
  | invalidIdentifier
  | invalidJoin
  | invalidTable
  | transactionState
  | executionFailure
  deriving Repr, DecidableEq

namespace ErrorKind

/-- The name under which a kind is reported. -/
def name : ErrorKind → String
  | .invalidArgument => "InvalidArgumentError"
  | .invalidDriver => "InvalidDriverError"
  | .emptyValues => "EmptyValuesError"
  | .emptyFilter => "EmptyFilterError"
  | .invalidFilter => "InvalidFilterError"
  | .invalidIdentifier => "InvalidIdentifierError"
  | .invalidJoin => "InvalidJoinError"
  | .invalidTable => "InvalidTableError"
  | .transactionState => "TransactionStateError"
  | .executionFailure => "ExecutionFailure"

end ErrorKind

/-- An error, by its cause. -/
inductive Error where
  | identifier (cause : IdentifierError)
  | filter (cause : FilterError)
  | table (cause : TableError)
  | join (token : String)
  | emptyColumns
  | emptyValues
  | emptyFilters
  | argument (cause : ArgumentError)
  | driver (cause : DriverError)
  /-- A level was to be left and none is open. -/
  | noTransaction (move : Transaction.Move)
  | execution (failure : Connection.Failure)
  /-- A fault of the driver that was passed on unchanged. -/
  | fault (cause : Connection.Fault)
  | misuse (cause : Misuse)
  | missingModule (name : String)
  /-- A name that no module can have: it is empty. -/
  | emptyModuleName
  | settings (problems : List Schema.Problem)
  deriving Repr

namespace Error

/-- The kind of an error of the library's own. -/
def kind? : Error → Option ErrorKind
  | .identifier _ => some .invalidIdentifier
  | .filter _ => some .invalidFilter
  | .table _ => some .invalidTable
  | .join _ => some .invalidJoin
  | .emptyColumns
  | .emptyValues => some .emptyValues
  | .emptyFilters => some .emptyFilter
  | .argument _ => some .invalidArgument
  | .driver _ => some .invalidDriver
  | .noTransaction _ => some .transactionState
  | .execution _ => some .executionFailure
  | .fault _
  | .misuse _
  | .missingModule _
  | .emptyModuleName
  | .settings _ => none

/-- The wording of an error. -/
def message : Error → String
  | .identifier cause => cause.message
  | .filter cause => cause.message
  | .table cause => cause.message
  | .join token => "Invalid join type: " ++ Text.quoted token
  | .emptyColumns => "Column list must not be empty."
  | .emptyValues => "Values must not be empty."
  | .emptyFilters => "Filters must not be empty."
  | .argument cause => cause.message
  | .driver cause => cause.message
  | .noTransaction move => "Cannot " ++ move.name ++ ": no active transaction."
  | .execution failure => failure.message
  | .fault cause => cause.text
  | .misuse cause => cause.message
  | .missingModule name => "No module named " ++ Text.quoted name
  | .emptyModuleName => "Empty module name"
  | .settings problems => toString problems.length ++ " settings are invalid"

/-- The error is about an argument, and not about the database or the program. -/
def isArgument (error : Error) : Bool :=
  match error.kind? with
  | none
  | some .transactionState
  | some .executionFailure => false
  | some _ => true

end Error

end QueryComposer
