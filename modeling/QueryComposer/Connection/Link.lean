import QueryComposer.Connection.Session
import QueryComposer.Driver.Entry

namespace QueryComposer.Connection

/-!
# Links

A link is an open connection: the backend behind it and the driver whose dialect it speaks.
`Link.execute` is the only way in which statements reach the backend, so that every statement is
recorded, every failure is remembered and every outcome is logged.
-/

/-- A statement that was executed and what it returned. -/
structure Result where
  statement : Prepared
  cursor : Cursor
  deriving Repr

/-- An open connection: its backend, its driver, and whether faults of integrity can be told. -/
structure Link (σ : Type) where
  backend : Backend σ
  driver : Driver
  knowsIntegrity : Bool

namespace Link

variable {σ : Type}

/-- The name of the logger of connections. -/
def loggerName : String :=
  "structured_sql.io.connectors.gateway"

/-- Write a statement in the style of the driver. -/
def prepare
    (link : Link σ)
    (sql : String) :
    Prepared :=
  Prepared.ofSql link.driver.paramStyle sql

/-- Write a statement of any type in the style of the driver. -/
def prepareValue
    (link : Link σ)
    (sql : Value) :
    Except Error Prepared :=
  (Prepared.ofValue link.driver.paramStyle sql).mapError .misuse

/-- Close the cursor of the last statement. -/
def closeCursor (link : Link σ) : Action σ Unit := do
  Action.record .closeCursor
  match ← Action.onBackend link.backend.closeCursor with
  | .ok () => return ()
  | .error fault => throw (.fault fault)

/-- The fault tells that a constraint is violated. -/
def isConstraintViolation
    (link : Link σ)
    (fault : Fault) :
    Bool :=
  link.knowsIntegrity && fault.faultClass == .integrityError

/-- The failure of a statement. -/
def failure
    (link : Link σ)
    (sql : Value)
    (fault : Fault) :
    Failure :=
  ⟨link.driver.name, sql, fault, link.isConstraintViolation fault⟩

/-- The event of a statement that succeeded; the values that were bound are only counted. -/
def executedEvent
    (link : Link σ)
    (sql : Value)
    (params : Option Params)
    (rowCount : Int) :
    Log.Event where
  level := .debug
  logger := loggerName
  fields := [
    ("driver", .text link.driver.name),
    ("sql", sql),
    ("param_count", .int ((params.map Params.count).getD 0)),
    ("rowcount", .int rowCount),
    ("event", .text "sql.executed")]

/-- The event of a statement that failed; the text of the fault may show values and is left out. -/
def failedEvent (failure : Failure) : Log.Event where
  level := .warning
  logger := loggerName
  fields := [
    ("driver", .text failure.driver),
    ("sql", failure.sql),
    ("error_type", .text failure.fault.faultClass.name),
    ("sqlstate", failure.fault.state),
    ("code", failure.fault.code),
    ("constraint_violation", .bool failure.constraintViolation),
    ("event", .text "sql.failed")]

/--
Execute a prepared statement; parameters without values are not passed on.

A fault of the driver closes the cursor and becomes a failure. A foreign fault passes through.
-/
def execute
    (link : Link σ)
    (statement : Prepared)
    (params : Option Params) :
    Action σ Result := do
  let given := params.filter (·.count != 0)
  Action.record (.execute statement.driverSql given)
  match ← Action.onBackend (link.backend.execute · statement.driverSql given) with
  | .ok cursor =>
      modify fun session => { session with lastError := none }
      Action.emit (link.executedEvent statement.sql given cursor.rowCount)
      return ⟨statement, cursor⟩
  | .error fault =>
      if fault.isDriverError then
        link.closeCursor
        let failure := link.failure statement.sql fault
        modify fun session => { session with lastError := some failure.info }
        Action.emit (failedEvent failure)
        throw (.execution failure)
      else
        throw (.fault fault)

/-- Execute a prepared statement without parameters and drop what it returns. -/
def discard
    (link : Link σ)
    (statement : Prepared) :
    Action σ Unit := do
  let _ ← link.execute statement none
  link.closeCursor

/-- Execute a statement without parameters and drop what it returns. -/
def perform
    (link : Link σ)
    (sql : String) :
    Action σ Unit :=
  link.discard (link.prepare sql)

/-- Issue a command of the flat transaction. -/
def issue
    (link : Link σ)
    (command : Transaction.Command) :
    Action σ Bool := do
  link.perform (command.sql link.driver.beginStatement)
  return true

/-- Execute a statement and give the number of rows that it affected. -/
def executeCount
    (link : Link σ)
    (statement : Prepared)
    (params : List Value) :
    Action σ Int := do
  let result ← link.execute statement (some (.positional params))
  link.closeCursor
  return result.cursor.rowCount

/-- No parameters are the same as parameters without values. -/
theorem execute_none
    (link : Link σ)
    (statement : Prepared) :
    link.execute statement none = link.execute statement (some (.positional [])) :=
  rfl

/-- A command is executed like a statement whose number of rows does not matter. -/
theorem issue_eq
    (link : Link σ)
    (command : Transaction.Command) :
    link.issue command = do
      let _ ← link.executeCount (link.prepare (command.sql link.driver.beginStatement)) []
      return true := by
  simp only [issue, perform, discard, executeCount, execute_none, bind_assoc, pure_bind]

/-- Close the connection. -/
def close (link : Link σ) : Action σ Unit := do
  Action.record .close
  Action.emit {
    level := .info
    logger := loggerName
    fields := [("driver", .text link.driver.name), ("event", .text "db.closed")] }

end Link

end QueryComposer.Connection
