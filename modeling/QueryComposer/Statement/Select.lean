import QueryComposer.Statement.Composed
import QueryComposer.Table.Clause

namespace QueryComposer.Statement

/-!
# Selections

A selection names columns, tables, and, if they are given, a filter and an order. It has no
condition exactly if the filter is left out or has no entries.
-/

/-- The condition of a selection with the word before it; nothing for a filter without entries. -/
def whereClause
    (delimiter : String)
    (filters : Value) :
    Binding String := do
  if ← Binding.lift (Filter.isEmpty filters) then
    return ""
  else
    return " WHERE " ++ (← Filter.compile delimiter filters)

/-- The order of a selection with the words before it; nothing if no column is named. -/
def orderClause
    (delimiter : String)
    (order : Value) :
    Except Error String := do
  let columns ← listOf order
  if columns.isEmpty then
    return ""
  else
    return " ORDER BY " ++ (← quoteAll delimiter columns)

/-- Compose a selection; filter and order may be left out. -/
def select
    (delimiter : String)
    (columns tables filters order : Value) :
    Except Error Composed :=
  composed do
    let names ← Binding.lift (listOf columns)
    if names.isEmpty then
      throw (.argument .noColumns)
    let selected ← Binding.lift (quoteAll delimiter names)
    let source ← Binding.lift (Table.compile delimiter tables)
    let condition ← whereClause delimiter filters
    let ordering ← Binding.lift (orderClause delimiter order)
    return "SELECT " ++ selected ++ " FROM " ++ source ++ condition ++ ordering

end QueryComposer.Statement
