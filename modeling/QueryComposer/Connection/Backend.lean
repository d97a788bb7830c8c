import QueryComposer.Association
import QueryComposer.Connection.Fault
import QueryComposer.Value.Key

namespace QueryComposer.Connection

/-!
# Backends

A backend is the database behind a connection: what it answers to a statement may depend on all
that happened before, which its state stands for. It may also fail to close a cursor.

A cursor holds what a statement returned. `Cursor.fetchOne` and `Cursor.fetchAll` consume its
rows and give them as mappings from column names.
-/

/-- The values for the placeholders of a statement: in order, or by name. -/
inductive Params where
  | positional (values : List Value)
  | named (pairs : List (Value × Value))
  deriving Repr

namespace Params

/-- The number of values. -/
def count : Params → Nat
  | .positional values => values.length
  | .named pairs => pairs.length

end Params

/-- A row as a driver returns it. -/
inductive FetchedRow where
  | tuple (values : List Value)
  | mapping (pairs : List (Value × Value))
  deriving Repr

/-- What a statement returned; one that returns no rows has no columns. -/
structure Cursor where
  rowCount : Int
  lastRowId : Value
  columns : Option (List String)
  rows : List FetchedRow
  deriving Repr

namespace Cursor

/-- A row as a mapping; of two columns with one name the later one counts. -/
def toPairs
    (columns : List String) :
    FetchedRow →
    List (Value × Value)
  | .mapping pairs => pairs
  | .tuple values => Association.ofPairs ((columns.map Value.text).zip values)

/-- The names of the columns. -/
def columnNames (cursor : Cursor) : List String :=
  cursor.columns.getD []

/-- Take the next row. -/
def fetchOne (cursor : Cursor) : Option (List (Value × Value)) × Cursor :=
  match cursor.columns, cursor.rows with
  | some columns, row :: rest => (some (toPairs columns row), { cursor with rows := rest })
  | _, _ => (none, cursor)

/-- Take all the rows that are left. -/
def fetchAll (cursor : Cursor) : List (List (Value × Value)) × Cursor :=
  match cursor.columns with
  | some columns => (cursor.rows.map (toPairs columns), { cursor with rows := [] })
  | none => ([], cursor)

/-- Take at most the given number of rows. -/
def fetchMany
    (limit : Nat)
    (cursor : Cursor) :
    List (List (Value × Value)) × Cursor :=
  match limit with
  | 0 => ([], cursor)
  | left + 1 =>
      match cursor.fetchOne with
      | (none, after) => ([], after)
      | (some row, after) =>
          let (rows, last) := after.fetchMany left
          (row :: rows, last)

end Cursor

/-- A database with states of the given type. -/
structure Backend (σ : Type) where
  execute : σ → Value → Option Params → Except Fault Cursor × σ
  closeCursor : σ → Except Fault Unit × σ

end QueryComposer.Connection
