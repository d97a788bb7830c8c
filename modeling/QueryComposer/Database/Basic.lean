import QueryComposer.Connection.Opening
import QueryComposer.Settings

namespace QueryComposer

/-!
# Databases

A database is an open connection together with the quote mark of its driver. It is opened from
connection parameters, from the environment, or from a connection that is open already.
-/

open Connection (Action Host Link)

/-- An open connection and the mark that its identifiers are quoted with. -/
structure Database (σ : Type) where
  link : Link σ
  delimiter : String

/-- An object that is no mapping: its class, and the attributes that it has, all of them null. -/
structure Thing where
  module : String
  typeName : String
  attributes : List String
  deriving Repr, DecidableEq

namespace Thing

/-- The attributes by which a link is known. -/
def linkAttributes : List String :=
  ["driver_name", "prepare", "execute", "exec", "begin_transaction"]

/-- The object can be used like a link. -/
def isLink (thing : Thing) : Bool :=
  linkAttributes.all thing.attributes.contains

/-- The object can be used like a connection. -/
def isConnection (thing : Thing) : Bool :=
  thing.attributes.contains "cursor"

end Thing

namespace Database

/-- What a database can be opened from. -/
inductive Source where
  | params (pairs : List (Value × Value)) (options : Value)
  | environment (env : List (String × String)) (options : Value)
  /-- An open connection of a driver of the registry. -/
  | driver (name : Value)
  /-- An object, and the driver that it is said to belong to. -/
  | thing (thing : Thing) (driver : Value)
  deriving Repr

variable {σ : Type}

/-- The name of the logger of databases. -/
def loggerName : String :=
  "structured_sql.db"

/-- Take over an object: a link, which has no driver as its attributes are null, or a connection. -/
def linkOfThing
    (host : Host σ)
    (registry : Registry)
    (thing : Thing)
    (driver : Value) :
    Action σ (Link σ) :=
  if thing.isLink then
    throw (.driver (.unknown .null registry.names))
  else if thing.isConnection then
    host.wrap registry thing.module thing.typeName driver
  else
    throw (.argument .source)

/-- The connection of a source. -/
def linkOf
    (host : Host σ)
    (registry : Registry) :
    Source →
    Action σ (Link σ)
  | .params pairs options => host.connect registry pairs options
  | .environment env options => do
      let settings ← Action.lift ((Settings.load env).mapError .settings)
      let pairs := settings.connectionParams.map fun (name, value) => (Value.text name, value)
      host.connect registry pairs options
  | .driver name => do
      let driver ← Action.lift (registry.get name)
      host.link driver
  | .thing thing driver => linkOfThing host registry thing driver

/-- Open a database. -/
def openWith
    (host : Host σ)
    (registry : Registry)
    (source : Source) :
    Action σ (Database σ) := do
  let link ← linkOf host registry source
  let entry ← Action.lift (registry.get (.text link.driver.name))
  let delimiter := entry.quoteMark.text
  Action.emit {
    level := .debug
    logger := loggerName
    fields := [
      ("driver", .text link.driver.name),
      ("quote_delimiter", .text delimiter),
      ("event", .text "db.initialized")] }
  return ⟨link, delimiter⟩

/-- Close the connection. -/
def close (db : Database σ) : Action σ Unit :=
  db.link.close

end Database

end QueryComposer
