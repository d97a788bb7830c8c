import QueryComposer.Database.Basic
import QueryComposer.Statement.Select
import QueryComposer.Statement.Update

namespace QueryComposer.Database

/-!
# Executing statements

A statement is composed from structured arguments, or given as it is, and executed. Nothing is
sent unless the whole statement could be composed.
-/

open Connection (Action Params Result)

variable {σ : Type}

/-- The parameters of a query: none, one value, several in order, or several by name. -/
def normalizeParams : Value → Except Error (Option Params)
  | .null => .ok none
  | .map pairs => .ok (some (.named pairs))
  | .list values
  | .tuple values => .ok (some (.positional values))
  | value =>
      if value.isScalar then
        .ok (some (.positional [value]))
      else
        .error (.argument (.parameters value.typeName))

/-- The statement of a query, prepared unless it is already. -/
def preparedOf
    (db : Database σ) :
    Value →
    Except Error Prepared
  | .text sql => .ok (db.link.prepare sql)
  | .prepared sql driverSql => .ok ⟨sql, driverSql⟩
  | _ => .error (.argument .statement)

/-- Execute a statement. -/
def query
    (db : Database σ)
    (statement params : Value) :
    Action σ Result := do
  let prepared ← Action.lift (db.preparedOf statement)
  let given ← Action.lift (normalizeParams params)
  db.link.execute prepared given

/-- Execute a composed statement and give the number of rows that it affected. -/
def executeComposed
    (db : Database σ)
    (statement : Statement.Composed) :
    Action σ Int :=
  db.link.executeCount (db.link.prepare statement.sql) statement.params

/-- Select rows. -/
def select
    (db : Database σ)
    (columns tables filters order : Value) :
    Action σ Result := do
  let statement ← Action.lift (Statement.select db.delimiter columns tables filters order)
  db.link.execute (db.link.prepare statement.sql) (some (.positional statement.params))

/-- Update rows and give their number. -/
def update
    (db : Database σ)
    (table values filters : Value) :
    Action σ Int := do
  let statement ← Action.lift (Statement.update db.delimiter table values filters)
  db.executeComposed statement

/-- Delete rows and give their number. -/
def delete
    (db : Database σ)
    (table filters : Value) :
    Action σ Int := do
  let statement ← Action.lift (Statement.delete db.delimiter table filters)
  db.executeComposed statement

end QueryComposer.Database
