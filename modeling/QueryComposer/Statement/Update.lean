import QueryComposer.Statement.Row

namespace QueryComposer.Statement

/-!
# Updates and deletions

An update assigns values to columns, or adds them to what the columns hold, in all rows that
satisfy a filter; a deletion removes these rows. Both demand a filter with at least one entry.
-/

/-- The arithmetic of an update operator; a plain assignment has none. -/
def arithmetic? : String → Option (Option String)
  | "=" => some none
  | "+=" => some (some "+")
  | "-=" => some (some "-")
  | _ => none

/-- Compose the assignment of one column and bind its value. -/
def assignment
    (delimiter : String) :
    Value × Value →
    Binding String
  | (key, value) => do
      let name ← Binding.lift (checkColumn key)
      let (column, operator) := Filter.splitKey name
      match arithmetic? operator with
      | none => throw (.argument (.setOperator operator column))
      | some change =>
          let quoted ← Binding.lift (Identifier.quote delimiter (.text column))
          Binding.bindValue value
          match change with
          | none => return quoted ++ " = " ++ placeholder
          | some sign => return quoted ++ " = " ++ quoted ++ " " ++ sign ++ " " ++ placeholder

/-- Compose the assignments of a mapping in its order. -/
def assignments
    (delimiter : String) :
    List (Value × Value) →
    Binding (List String)
  | [] => return []
  | pair :: rest => do
      let first ← assignment delimiter pair
      let others ← assignments delimiter rest
      return first :: others

/-- Compose an update; the assigned values are bound before those of the filter. -/
def update
    (delimiter : String)
    (table values filters : Value) :
    Except Error Composed :=
  composed do
    if !values.isTruthy then
      throw .emptyValues
    Binding.lift (requireFilter filters)
    let pairs ← Binding.lift (pairsOf values)
    let assigned ← assignments delimiter pairs
    let condition ← Filter.compile delimiter filters
    let target ← Binding.lift (Identifier.quote delimiter table)
    return "UPDATE " ++ target ++ " SET " ++ ",".intercalate assigned ++ " WHERE " ++ condition

/-- Compose a deletion. -/
def delete
    (delimiter : String)
    (table filters : Value) :
    Except Error Composed :=
  composed do
    Binding.lift (requireFilter filters)
    let condition ← Filter.compile delimiter filters
    let target ← Binding.lift (Identifier.quote delimiter table)
    return "DELETE FROM " ++ target ++ " WHERE " ++ condition

end QueryComposer.Statement
