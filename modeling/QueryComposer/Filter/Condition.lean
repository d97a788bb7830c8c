import QueryComposer.Binding
import QueryComposer.Filter.Entry
import QueryComposer.Identifier
import QueryComposer.Value.Key

namespace QueryComposer.Filter

/-!
# Conditions

`compile` turns a filter into the text of a condition between parentheses and binds the values
of its conditions in the order in which their placeholders stand in the text.

A connective holds for the next entry only; without one, entries are joined by "AND". Every
nested filter has its own parentheses.
-/

/-- The operators that compare a column with one value. -/
def operators : List String :=
  ["=", "<>", "!=", "<", ">", "<=", ">=", "LIKE", "NOT LIKE"]

/-- The comparison operator that a value names; a set is no operator, although it is no key. -/
def checkOperator (p : Predicate) : Except Error String :=
  match p.operator with
  | .text name =>
      if operators.contains name then
        .ok name
      else
        .error (.filter (.unsupported p.operator p.column))
  | .set _ => .error (.filter (.unsupported p.operator p.column))
  | operator =>
      if operator.isHashable then
        .error (.filter (.unsupported p.operator p.column))
      else
        .error (.misuse (.notHashable operator.typeName))

/-- Compile a list of values that a column may have. -/
def compileMembers
    (p : Predicate)
    (column operator : String)
    (members : List Value) :
    Binding String := do
  if operator != defaultOperator then
    throw (.filter (.listOperator p.operator))
  if members.isEmpty then
    throw (.filter (.emptyList p.column))
  if members.any (!·.isScalar) then
    throw (.filter (.listMember p.column))
  Binding.bindValues members
  return column ++ " IN (" ++ placeholders members.length ++ ")"

/-- Compile one condition: a comparison with a column, a value or a list of values. -/
def compilePredicate
    (delimiter : String)
    (p : Predicate) :
    Binding String := do
  let operator ← Binding.lift (checkOperator p)
  let column ← Binding.lift (Identifier.quote delimiter p.column)
  match p.operand with
  | .column name =>
      let other ← Binding.lift (Identifier.quote delimiter name)
      return column ++ " " ++ operator ++ " " ++ other
  | .list members
  | .tuple members => compileMembers p column operator members
  | operand =>
      if operand.isScalar then
        Binding.bindValue operand
        return column ++ " " ++ operator ++ " " ++ placeholder
      else
        throw (.filter (.operand p.column operand.typeName))

/-- What stands before an entry: nothing before the first one, a connective before the others. -/
def joint : Option Connective → String
  | none => ""
  | some c => " " ++ c.keyword ++ " "

mutual

/-- Compile one condition or one nested filter. -/
def compileEntry
    (delimiter : String) :
    Entry →
    Binding String
  | .predicate p => compilePredicate delimiter p
  | .group [] => throw (.filter .emptyGroup)
  | .group entries => do
      let inner ← compileEntries delimiter none entries
      return "(" ++ inner ++ ")"
  | .connective _ => throw (.filter .leadingConnective)
  | .stray value => throw (.filter (.strayEntry value.typeName))

/-- Compile the entries that follow, given the connective that holds for the next of them. -/
def compileEntries
    (delimiter : String)
    (lead : Option Connective) :
    List Entry →
    Binding String
  | [] => return ""
  | entry :: rest =>
      match lead, entry with
      | some _, .connective c => compileEntries delimiter (some c) rest
      | lead, entry => do
          let first ← compileEntry delimiter entry
          let others ← compileEntries delimiter (some .and) rest
          return joint lead ++ first ++ others

end

/-- Compile entries into a condition between parentheses. -/
def compileGroup
    (delimiter : String)
    (entries : List Entry) :
    Binding String := do
  if entries.isEmpty then
    throw (.filter .empty)
  let inner ← compileEntries delimiter none entries
  return "(" ++ inner ++ ")"

/-- Compile a filter literal into a condition between parentheses. -/
def compile
    (delimiter : String)
    (filters : Value) :
    Binding String := do
  let entries ← Binding.lift (parse filters)
  compileGroup delimiter entries

/-- The filter is left out or has no entries. -/
def isEmpty : Value → Except Error Bool
  | .null => .ok true
  | filters => (parse filters).map List.isEmpty

end QueryComposer.Filter
