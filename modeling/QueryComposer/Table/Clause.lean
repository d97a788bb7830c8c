import QueryComposer.Filter.Condition
import QueryComposer.Table.Join

namespace QueryComposer.Table

/-!
# Table clauses

A table specification is the name of a table, or a list that starts with one and goes on with
join keywords and mappings from joined tables to their conditions. `compile` writes the clause
that follows the word FROM.

A keyword holds for the next joined table only; without one a table is joined by an inner join.
Join conditions compare columns with columns, so that a clause binds no values.
-/

/-- The condition that one item of a join mapping states. -/
def joinPredicate
    (table : String) :
    Value × Value →
    Except Error Filter.Predicate
  | (.text key, .text other) => .ok (Filter.Predicate.ofKey key (.column (.text other)))
  | (.text key, .column name) => .ok (Filter.Predicate.ofKey key (.column name))
  | _ => .error (.table (.conditionNotColumns table))

/-- The text of the conditions of a join. -/
def compileCondition
    (delimiter : String)
    (predicates : List Filter.Predicate) :
    Except Error String :=
  (Filter.compileGroup delimiter (predicates.map .predicate)).collect.map (·.1)

/-- Compile one joined table and its conditions. -/
def compileJoin
    (delimiter : String)
    (join : Join) :
    Value × Value →
    Except Error String
  | (.text table, .map pairs) => do
      let quoted ← Identifier.quote delimiter (.text table)
      if pairs.isEmpty then
        if join == .cross then
          return " " ++ join.keyword ++ " " ++ quoted
        else
          throw (.table (.emptyCondition table))
      else
        let predicates ← pairs.mapM (joinPredicate table)
        let condition ← compileCondition delimiter predicates
        return " " ++ join.keyword ++ " " ++ quoted ++ " ON " ++ condition
  | (.text table, condition) => .error (.table (.conditionNotMap table condition.typeName))
  | (name, _) => .error (.table (.nameNotText name))

/-- Compile the tables of one mapping; the given join holds for the first of them. -/
def compileJoins
    (delimiter : String)
    (join : Join) :
    List (Value × Value) →
    Except Error String
  | [] => .ok ""
  | pair :: rest => do
      let first ← compileJoin delimiter join pair
      let others ← compileJoins delimiter .inner rest
      return first ++ others

/-- Compile what follows the first table, given the join that holds for the next one. -/
def compileElements
    (delimiter : String)
    (join : Join) :
    List Value →
    Except Error String
  | [] => .ok ""
  | .text token :: rest =>
      match Join.ofToken? token with
      | some found => compileElements delimiter found rest
      | none => .error (.join token)
  | .map (pair :: pairs) :: rest => do
      let first ← compileJoins delimiter join (pair :: pairs)
      let others ← compileElements delimiter .inner rest
      return first ++ others
  | element :: _ => .error (.table (.notJoin element))

/-- Compile a list of tables and joins. -/
def compileList
    (delimiter : String) :
    List Value →
    Except Error String
  | [] => .error (.table .noTables)
  | .text base :: rest => do
      let first ← Identifier.quote delimiter (.text base)
      let others ← compileElements delimiter .inner rest
      return first ++ others
  | base :: _ => .error (.table (.baseNotText base))

/-- Compile a table specification. -/
def compile
    (delimiter : String) :
    Value →
    Except Error String
  | .text base => compileList delimiter [.text base]
  | .list elements
  | .tuple elements => compileList delimiter elements
  | _ => .error (.table .noTables)

end QueryComposer.Table
