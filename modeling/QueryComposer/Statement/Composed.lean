import QueryComposer.Filter.Condition

namespace QueryComposer.Statement

/-!
# Composed statements

A composed statement is a text with placeholders and the values that they stand for. Identifiers
are quoted and values are bound, so that no value becomes part of a text.

Here is what the composition of every kind of statement needs: the members of an argument, lists
of quoted identifiers, and the demand for a filter that has entries.
-/

/-- The text of a statement and the values of its placeholders, in order. -/
structure Composed where
  sql : String
  params : List Value
  deriving Repr

/-- The statement of a composition and the values it binds. -/
def composed (composition : Binding String) : Except Error Composed :=
  composition.collect.map fun (sql, params) => ⟨sql, params⟩

/-- The members of an argument that has to have members. -/
def members (argument : Value) : Except Error (List Value) :=
  match argument.items? with
  | some items => .ok items
  | none => .error (.misuse (.notIterable argument.typeName))

/-- The members of an argument that may be left out or be a single text. -/
def listOf : Value → Except Error (List Value)
  | .null => .ok []
  | .text s => .ok [.text s]
  | argument => members argument

/-- Quote identifiers and separate them by commas. -/
def quoteAll
    (delimiter : String)
    (identifiers : List Value) :
    Except Error String := do
  let quoted ← identifiers.mapM (Identifier.quote delimiter)
  return ",".intercalate quoted

/-- The pairs of an argument that has to be a mapping. -/
def pairsOf : Value → Except Error (List (Value × Value))
  | .map pairs => .ok pairs
  | argument => .error (.misuse (.notMap argument.typeName))

/-- Refuse a filter that is left out or has no entries. -/
def requireFilter (filters : Value) : Except Error Unit := do
  if ← Filter.isEmpty filters then
    throw .emptyFilters

end QueryComposer.Statement
