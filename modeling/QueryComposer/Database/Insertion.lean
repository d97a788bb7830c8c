import QueryComposer.Database.Statement
import QueryComposer.Database.Transaction
import QueryComposer.Statement.Upsert

namespace QueryComposer.Database

/-!
# Insertions

Rows are inserted one after the other. If key columns are named, a row that is in the way of an
insertion is updated instead.
-/

open Connection (Action)

variable {σ : Type}

/-- The key columns of an insertion: none, one, or several. -/
def keyColumns : Value → Except Error (List Value)
  | .text name => .ok [.text name]
  | keys => if keys.isTruthy then Statement.members keys else .ok []

/-- The update that takes the place of an insertion, if its failure allows one. -/
def fallback
    (db : Database σ)
    (table : Value)
    (row : Statement.Row)
    (keys : List Value)
    (failure : Connection.Failure) :
    Except Error (Option Statement.Composed) :=
  if failure.constraintViolation then
    let pairs := row.map fun (name, value) => (Value.text name, value)
    Statement.upsertUpdate db.delimiter table (.map pairs) (.list keys)
  else
    .ok none

/--
Insert one row in a level of its own, or update the row that is in its way.

A failed statement may spoil the transaction that it runs in; the level keeps an enclosing
transaction out of that.
-/
def insertOrUpdate
    (db : Database σ)
    (table : Value)
    (statement : Prepared)
    (params : List Value)
    (row : Statement.Row)
    (keys : List Value) :
    Action σ Int := do
  let _ ← db.begin
  match ← Action.attempt (db.link.executeCount statement params) with
  | .ok count =>
      let _ ← db.commit
      return count
  | .error (.execution failure) =>
      let _ ← db.rollback
      match ← Action.lift (db.fallback table row keys failure) with
      | none => throw (.execution failure)
      | some update =>
          Action.emit {
            level := .info
            logger := loggerName
            fields := [
              ("table", table),
              ("key_columns", .list keys),
              ("event", .text "insert.upsert_fallback")] }
          db.executeComposed update
  | .error error =>
      let _ ← db.rollback
      throw error

/-- The values of a row in the order of the given columns. -/
def rowValues
    (columns : List String)
    (row : Statement.Row) :
    List Value :=
  columns.map fun column => (Association.get? row column).getD .null

/-- Insert rows one after the other and give the number of rows that were affected. -/
def insertRows
    (db : Database σ)
    (table : Value)
    (statement : Prepared)
    (columns : List String)
    (keys : List Value) :
    List Statement.Row →
    Action σ Int
  | [] => return 0
  | row :: rest => do
      let params := rowValues columns row
      let first ←
        if keys.isEmpty then
          db.link.executeCount statement params
        else
          db.insertOrUpdate table statement params row keys
      let others ← db.insertRows table statement columns keys rest
      return first + others

/-- What holds of inserting each row, and of one insertion after the other, holds of all rows. -/
theorem insertRows_closed
    (db : Database σ)
    {table : Value}
    {statement : Prepared}
    {columns : List String}
    {keys : List Value}
    {rows : List Statement.Row}
    (Holds : Action σ Int → Prop)
    (nothing : Holds (return 0))
    (append :
      ∀ {first others : Action σ Int},
        Holds first →
        Holds others →
        Holds (do
          let count ← first
          let affected ← others
          return count + affected))
    (inserts :
      keys = [] →
      ∀ row ∈ rows, Holds (db.link.executeCount statement (rowValues columns row)))
    (upserts :
      keys ≠ [] →
      ∀ row ∈ rows,
        Holds (db.insertOrUpdate table statement (rowValues columns row) row keys)) :
    Holds (db.insertRows table statement columns keys rows) := by
  induction rows with
  | nil =>
      exact nothing
  | cons row rest inductionHypothesis =>
      have others := inductionHypothesis
        (fun unkeyed other member => inserts unkeyed other (List.mem_cons_of_mem _ member))
        (fun keyed other member => upserts keyed other (List.mem_cons_of_mem _ member))
      rw [insertRows]
      split
      · next unkeyed =>
          exact append (inserts (List.isEmpty_iff.mp unkeyed) row List.mem_cons_self) others
      · next keyed =>
          exact append (upserts (by simpa using keyed) row List.mem_cons_self) others

/-- The columns of the first row. -/
def firstColumns (rows : List Statement.Row) : List String :=
  (rows.head?.map Statement.columns).getD []

/-- Insert one row or many; with key columns, a row that is in the way is updated instead. -/
def insert
    (db : Database σ)
    (table values upsertKeys : Value) :
    Action σ Int := do
  let rows ← Action.lift (Statement.normalizeRows values)
  let columns := firstColumns rows
  let sql ← Action.lift (Statement.insert db.delimiter table (.list (columns.map .text)))
  let keys ← Action.lift (keyColumns upsertKeys)
  let affected ← db.insertRows table (db.link.prepare sql) columns keys rows
  Action.emit {
    level := .debug
    logger := loggerName
    fields := [
      ("table", table),
      ("rows", .int rows.length),
      ("affected_rows", .int affected),
      ("event", .text "insert.completed")] }
  return affected

end QueryComposer.Database
