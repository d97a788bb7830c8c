import QueryComposer.Filter.Key

namespace QueryComposer.Filter

/-!
# Filter entries

A filter is a sequence of entries: conditions on columns, words that join them, and nested
filters. `parse` reads the entries of a literal. A mapping gives one condition for each key, the
words "and" and "or" give connectives, and a list inside a list gives a nested filter.

A nested filter that was put together by hand may hold anything; what is no entry in it is kept
as a stray value until the filter is compiled.
-/

/-- A condition on a column, none of whose parts has been checked. -/
structure Predicate where
  column : Value
  operator : Value
  operand : Value
  deriving Repr, Inhabited

/-- An entry of a filter. -/
inductive Entry where
  | predicate (p : Predicate)
  | connective (c : Connective)
  | group (entries : List Entry)
  /-- A value that is no entry. -/
  | stray (value : Value)
  deriving Repr, Inhabited

namespace Entry

mutual

/-- The entry that a value stands for. -/
def ofValue : Value → Entry
  | .predicate column operator operand => .predicate ⟨column, operator, operand⟩
  | .connective c => .connective c
  | .group entries => .group (ofValues entries)
  | value => .stray value

/-- The entries that values stand for. -/
def ofValues : List Value → List Entry
  | [] => []
  | value :: rest => ofValue value :: ofValues rest

end

mutual

/-- The value that stands for an entry. -/
def toValue : Entry → Value
  | .predicate p => .predicate p.column p.operator p.operand
  | .connective c => .connective c
  | .group entries => .group (toValues entries)
  | .stray value => value

/-- The values that stand for entries. -/
def toValues : List Entry → List Value
  | [] => []
  | entry :: rest => toValue entry :: toValues rest

end

mutual

/-- Reading a value as an entry loses nothing. -/
@[simp] theorem toValue_ofValue : ∀ value : Value, toValue (ofValue value) = value
  | .predicate _ _ _ => by simp [ofValue, toValue]
  | .connective _ => by simp [ofValue, toValue]
  | .group entries => by simp [ofValue, toValue, toValues_ofValues entries]
  | .null
  | .bool _
  | .int _
  | .float _
  | .text _
  | .bytes _
  | .decimal _
  | .uuid _
  | .date _
  | .datetime _ _
  | .time _
  | .foreign _ _
  | .list _
  | .tuple _
  | .set _
  | .map _
  | .column _
  | .prepared _ _ => by simp [ofValue, toValue]

/-- Reading values as entries loses nothing. -/
@[simp] theorem toValues_ofValues : ∀ values : List Value, toValues (ofValues values) = values
  | [] => by simp [ofValues, toValues]
  | value :: rest => by
      simp [ofValues, toValues, toValue_ofValue value, toValues_ofValues rest]

end

end Entry

namespace Connective

/-- The connective that a word in any case names. -/
def ofWord? (word : List Char) : Option Connective :=
  let upper := Text.upper word
  if upper == "AND".toList then
    some .and
  else if upper == "OR".toList then
    some .or
  else
    none

/-- The connective that a value names. -/
def ofValue : Value → Except Error Connective
  | .text word =>
      match ofWord? word.toList with
      | some c => .ok c
      | none => .error (.filter (.connective (.text word)))
  | value => .error (.filter (.connective value))

end Connective

namespace Predicate

/-- The condition of a key and its value. -/
def ofKey
    (key : String)
    (operand : Value) :
    Predicate :=
  let (column, operator) := splitKey key
  ⟨.text column, .text operator, operand⟩

/-- The condition of a key of any type and its value. -/
def ofAnyKey
    (key operand : Value) :
    Except Error Predicate := do
  let (column, operator) ← splitAnyKey key
  return ⟨column, .text operator, operand⟩

/-- The condition that a column is equal to a value. -/
def equal
    (column : String)
    (operand : Value) :
    Predicate :=
  ⟨.text column, .text defaultOperator, operand⟩

end Predicate

/-- The conditions of a mapping, in its order. -/
def parsePairs : List (Value × Value) → Except Error (List Entry)
  | [] => .ok []
  | (.text key, operand) :: rest => do
      let others ← parsePairs rest
      return .predicate (Predicate.ofKey key operand) :: others
  | (key, _) :: _ => .error (.filter (.keyNotText key))

mutual

/-- The entries that one member of a filter list gives. -/
def parseEntry : Value → Except Error (List Entry)
  | .text word =>
      match Connective.ofWord? (Text.trim word.toList) with
      | some c => .ok [.connective c]
      | none => .error (.filter (.looseText word))
  | .map pairs => parsePairs pairs
  | .list items
  | .tuple items => do
      let entries ← parseItems items
      return [.group entries]
  | .predicate column operator operand => .ok [.predicate ⟨column, operator, operand⟩]
  | .connective c => .ok [.connective c]
  | .group entries => .ok [.group (Entry.ofValues entries)]
  | value => .error (.filter (.notEntry value.typeName))

/-- The entries that the members of a filter list give. -/
def parseItems : List Value → Except Error (List Entry)
  | [] => .ok []
  | item :: rest => do
      let first ← parseEntry item
      let others ← parseItems rest
      return first ++ others

end

/-- The entries of a filter literal: a mapping, a list, a nested filter or a single condition. -/
def parse : Value → Except Error (List Entry)
  | .group entries => .ok (Entry.ofValues entries)
  | .map pairs => parsePairs pairs
  | .predicate column operator operand => .ok [.predicate ⟨column, operator, operand⟩]
  | .list items
  | .tuple items => parseItems items
  | value => .error (.filter (.notLiteral value.typeName))

/-- The filter of some entries and of equalities that follow them. -/
def allOf
    (items : List Value)
    (equalities : List (String × Value)) :
    Except Error Value := do
  let entries ← parseItems items
  let predicates := equalities.map fun (column, operand) =>
    Entry.predicate (Predicate.equal column operand)
  return .group (Entry.toValues (entries ++ predicates))

end QueryComposer.Filter
