import QueryComposer.Connection.Link
import QueryComposer.Driver.Keywords
import QueryComposer.Log.Logger

namespace QueryComposer.Connection

/-!
# Opening connections

A connection is opened from parameters, or one that is open already is taken over. In either
case the driver is looked up in the registry, its module has to be there, and autocommit is
switched on.
-/

/-- What connections can be opened on. -/
structure Host (σ : Type) where
  backend : Backend σ
  modules : List String
  connectFault : Option Fault
  knowsIntegrity : Bool

namespace Host

variable {σ : Type}

/-- The name of the logger of opened connections. -/
def loggerName : String :=
  "structured_sql.io.connectors.factory"

/-- The module of a driver has to be there, under a full name. -/
def requireModule
    (host : Host σ)
    (name : String) :
    Action σ Unit :=
  if name.toList.head? = some '.' then
    throw (.misuse (.relativeModule name))
  else if name = "" then
    throw .emptyModuleName
  else if host.modules.contains name then
    return ()
  else
    throw (.missingModule name)

/-- The link of a connection whose autocommit has been switched on. -/
def link
    (host : Host σ)
    (driver : Driver) :
    Action σ (Link σ) := do
  Action.record (.autocommit driver.autocommit)
  return ⟨host.backend, driver, host.knowsIntegrity⟩

/-- The event of a connection that was opened, with its keywords redacted. -/
def connectedEvent
    (driver : Driver)
    (keywords : List (Value × Value)) :
    Log.Event where
  level := .info
  logger := loggerName
  fields := [
    ("driver", .text driver.name),
    ("connect_args", .map keywords),
    ("event", .text "db.connected")]

/-- Open a connection from parameters and options. -/
def connect
    (host : Host σ)
    (registry : Registry)
    (params : List (Value × Value))
    (options : Value) :
    Action σ (Link σ) := do
  let driver ← Action.lift (registry.get (Driver.parameter params "driver"))
  let merged ← Action.lift (registry.mergedParams (.text driver.name) (.map params))
  host.requireModule driver.module
  let keywords ← Action.lift (driver.connectKeywords merged options)
  let named ← Action.lift (Log.Logger.fieldsOf keywords)
  Action.record (.connect driver.module named)
  if let some fault := host.connectFault then
    throw (.fault fault)
  let shown ← Action.lift (Redaction.redactPairs keywords)
  Action.emit (connectedEvent driver shown)
  host.link driver

/-- Take over an open connection of a class of the given module. -/
def wrap
    (host : Host σ)
    (registry : Registry)
    (module : String)
    (typeName : String)
    (driver : Value) :
    Action σ (Link σ) := do
  let driver ← Action.lift <|
    match driver with
    | .null =>
        match registry.detect? module with
        | some found => .ok found
        | none => .error (.driver (.undetected typeName))
    | name => registry.get name
  host.requireModule driver.module
  host.link driver

end Host

end QueryComposer.Connection
