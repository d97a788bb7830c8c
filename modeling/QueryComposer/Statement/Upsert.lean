import QueryComposer.Statement.Update

namespace QueryComposer.Statement

/-!
# Updates in place of insertions

A row that cannot be inserted because it is there already is updated instead: its key columns
find it, and its other columns are assigned.
-/

/-- The row of a mapping, with the columns in place of the keys; a later key wins. -/
def plainRow : List (Value × Value) → Except Error (List (Value × Value))
  | pairs => do
      let plain ← pairs.mapM fun (key, value) => do
        let (column, _) ← Filter.splitAnyKey key
        return (column, value)
      return Association.ofPairs plain

/-- The values of the key columns; nothing once one of them is null or missing. -/
def keyValues
    (row : List (Value × Value)) :
    List Value →
    Except Error (Option (List (Value × Value)))
  | [] => .ok (some [])
  | key :: rest =>
      if !key.isHashable then
        .error (.misuse (.notHashable key.typeName))
      else
        match Association.get? row key with
        | none
        | some .null => .ok none
        | some value => do
            let others ← keyValues row rest
            return others.map ((key, value) :: ·)

/-- The filter that key columns have their values. -/
def keyFilter (pairs : List (Value × Value)) : Value :=
  .map (Association.ofPairs (pairs.map fun (key, value) =>
    (.text (key.plain ++ " " ++ Filter.defaultOperator), value)))

/--
Compose the update that takes the place of the insertion of a row.

The key columns become the filter and the others are assigned. There is no such update if a key
column is null or missing, or if the row has no other column.
-/
def upsertUpdate
    (delimiter : String)
    (table row keys : Value) :
    Except Error (Option Composed) := do
  let pairs ← pairsOf row
  let plain ← plainRow pairs
  let keyColumns ← members keys
  match ← keyValues plain keyColumns with
  | none => return none
  | some found =>
      let assigned := plain.filter fun pair => !keyColumns.any (· == pair.1)
      if assigned.isEmpty then
        return none
      else
        return some (← update delimiter table (.map assigned) (keyFilter found))

end QueryComposer.Statement
