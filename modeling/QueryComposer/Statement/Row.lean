import QueryComposer.Statement.Composed

namespace QueryComposer.Statement

/-!
# Rows and insertions

A value set is one row or a list of rows that share one set of columns. `normalizeRows` checks
it: every row is a mapping from texts, and every row has the columns of the first one.

An insertion names the columns of a row and has one placeholder for each of them.
-/

/-- A row: its columns and their values, in the order in which they were given. -/
abbrev Row :=
  List (String × Value)

/-- A key that is a text. -/
def checkColumn : Value → Except Error String
  | .text name => .ok name
  | key => .error (.argument (.columnNotText key))

/-- The row of a mapping whose keys are texts. -/
def rowOfPairs : List (Value × Value) → Except Error Row
  | [] => .ok []
  | (key, value) :: rest => do
      let name ← checkColumn key
      let others ← rowOfPairs rest
      return (name, value) :: others

/-- The columns of a row, in order. -/
def columns (row : Row) : List String :=
  row.map (·.1)

/-- Two lists of columns have the same members. -/
def sameColumns
    (left right : List String) :
    Bool :=
  left.all right.contains && right.all left.contains

/-- Check the rows from a position on; the columns are those of the first row, once it is known. -/
def checkRows
    (index : Nat)
    (expected : Option (List String)) :
    List Value →
    Except Error (List Row)
  | [] => .ok []
  | .map pairs :: rest => do
      let row ← rowOfPairs pairs
      let first := expected.getD (columns row)
      if sameColumns (columns row) first then
        let others ← checkRows (index + 1) (some first) rest
        return row :: others
      else
        throw (.argument (.rowColumns index))
  | _ :: _ => .error (.argument (.rowNotMap index))

/-- The rows of a value set. -/
def rowValues : Value → Except Error (List Value)
  | .map pairs => .ok [.map pairs]
  | .list rows
  | .tuple rows => .ok rows
  | values => .error (.argument (.rowsNotMaps values.typeName))

/-- Check a value set and give its rows. -/
def normalizeRows (values : Value) : Except Error (List Row) := do
  let rows ← rowValues values
  match rows with
  | [] => throw .emptyValues
  | first :: _ =>
      if first.isTruthy then
        checkRows 0 none rows
      else
        throw .emptyValues

/-- Compose the insertion of one row with the given columns. -/
def insert
    (delimiter : String)
    (table columns : Value) :
    Except Error String := do
  if !columns.isTruthy then
    throw .emptyColumns
  let keys ← members columns
  let names ← keys.mapM checkColumn
  let quoted ← quoteAll delimiter (names.map fun name => .text (Filter.columnOf name))
  let target ← Identifier.quote delimiter table
  return "INSERT INTO " ++ target ++ " (" ++ quoted ++ ") VALUES (" ++
    placeholders names.length ++ ")"

end QueryComposer.Statement
