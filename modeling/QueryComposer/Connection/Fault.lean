import QueryComposer.Value.Display

namespace QueryComposer.Connection

/-!
# Faults of a database driver

A driver reports a failed statement by a fault of its error hierarchy. Any other fault that
comes out of a driver call is foreign: it passes through unchanged.
-/

/-- The classes of faults, from the most general class of the hierarchy on. -/
inductive FaultClass where
  | error
  | databaseError
  | operationalError
  | integrityError
  | foreign
  deriving Repr, DecidableEq

namespace FaultClass

/-- The name under which a class is reported. -/
def name : FaultClass → String
  | .error => "Error"
  | .databaseError => "DatabaseError"
  | .operationalError => "OperationalError"
  | .integrityError => "IntegrityError"
  | .foreign => "RuntimeError"

end FaultClass

/-- A fault, its arguments and the codes it carries. -/
structure Fault where
  faultClass : FaultClass
  arguments : List Value
  pgcode : Option Value
  sqlstate : Option Value
  errorCode : Option Value
  deriving Repr

namespace Fault

/-- A foreign fault with one text. -/
def foreign (message : String) : Fault :=
  ⟨.foreign, [.text message], none, none, none⟩

/-- The text of a fault: its only argument, or all of them as a tuple. -/
def text (fault : Fault) : String :=
  match fault.arguments with
  | [] => ""
  | [argument] => argument.plain
  | arguments => tupleDisplay (arguments.map Value.display)

/-- The fault belongs to the driver's error hierarchy. -/
def isDriverError (fault : Fault) : Bool :=
  fault.faultClass != .foreign

/-- The state code: the first of the two that is given, or else the second as it is. -/
def state (fault : Fault) : Value :=
  let first := fault.pgcode.getD .null
  if first.isTruthy then first else fault.sqlstate.getD .null

/-- The number of a fault: the code it carries, or else its first argument if that is an integer. -/
def code (fault : Fault) : Value :=
  match fault.errorCode.getD .null, fault.arguments with
  | .null, .int n :: _ => .int n
  | .null, .bool b :: _ => .bool b
  | code, _ => code

end Fault

/-- What is remembered of the last statement that failed. -/
structure ErrorInfo where
  sqlstate : Value
  code : Value
  message : String
  deriving Repr

/-- The failure of a statement as the library reports it. -/
structure Failure where
  driver : String
  sql : Value
  fault : Fault
  constraintViolation : Bool
  deriving Repr

namespace Failure

/-- The text of a failure. -/
def message (failure : Failure) : String :=
  "Statement failed on " ++ failure.driver ++ ": " ++ failure.fault.text

/-- What is remembered of a failure. -/
def info (failure : Failure) : ErrorInfo :=
  ⟨failure.fault.state, failure.fault.code, failure.fault.text⟩

end Failure

end QueryComposer.Connection
