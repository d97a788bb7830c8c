import QueryComposer.Proofs.Filter.Conjunction
import QueryComposer.Proofs.Statement.Row
import QueryComposer.Statement.Update

namespace QueryComposer.Statement

/-!
# Columns and their values

A mapping from bare columns to values is written in one way as assignments and as conditions:
every column has its own placeholder, and the values are bound in the order of the columns.
-/

/-- A column that is bare and that is quoted as told. -/
structure Names
    (delimiter : String)
    (quoted : String → String)
    (column : String) : Prop where
  bare : Filter.Bare column
  quotes : Identifier.quote delimiter (.text column) = .ok (quoted column)

/-- A column and the placeholder for its value. -/
def equality
    (quoted : String → String)
    (pair : String × Value) :
    String :=
  quoted pair.1 ++ " = " ++ placeholder

variable {delimiter : String} {quoted : String → String}

/-- A bare column is assigned its value. -/
theorem assignment_outcome
    {column : String}
    (names : Names delimiter quoted column)
    (value : Value)
    (bound : List Value) :
    (assignment delimiter (.text column, value)).outcome bound =
      (.ok (equality quoted (column, value)), bound ++ [value]) := by
  have assigns : arithmetic? Filter.defaultOperator = some none := rfl
  unfold assignment
  dsimp only
  rw [checkColumn, Binding.outcome_bind_of_ok (Binding.outcome_lift _ _),
    Filter.splitKey_of_bare names.bare]
  dsimp only
  rw [assigns]
  dsimp only
  rw [names.quotes, Binding.outcome_bind_of_ok (Binding.outcome_lift _ _),
    Binding.outcome_bind_of_ok (Binding.outcome_bindValue _ _)]
  rfl

theorem assignments_outcome
    {pairs : List (String × Value)}
    (names : ∀ pair ∈ pairs, Names delimiter quoted pair.1)
    (bound : List Value) :
    (assignments delimiter (toPairs pairs)).outcome bound =
      (.ok (pairs.map (equality quoted)), bound ++ pairs.map (·.2)) := by
  induction pairs generalizing bound with
  | nil =>
      rw [List.map_nil, List.map_nil, List.append_nil]
      rfl
  | cons pair rest inductionHypothesis =>
      rcases pair with ⟨column, value⟩
      have first := assignment_outcome (names (column, value) List.mem_cons_self) value bound
      have others := inductionHypothesis
        (fun pair member => names pair (List.mem_cons_of_mem _ member)) (bound ++ [value])
      rw [toPairs_cons, assignments, Binding.outcome_bind_of_ok first,
        Binding.outcome_bind_of_ok others]
      simp

/-- The condition of a bare column and a scalar is the same text as an assignment. -/
theorem written_equal
    {column : String}
    (names : Names delimiter quoted column)
    {value : Value}
    (scalar : value.isScalar = true) :
    (Filter.Predicate.equal column value).Written delimiter
      (equality quoted (column, value)) [value] := by
  have known : Filter.defaultOperator ∈ Filter.operators := by
    decide
  have written :
      quoted column ++ " " ++ Filter.defaultOperator ++ " " ++ placeholder =
        equality quoted (column, value) := by
    simp only [equality, String.append_assoc]
    rfl
  rw [← written]
  exact .value known names.quotes scalar

/-- The condition that a column is to have a value. -/
def conditionOf (pair : String × Value) : Filter.Predicate :=
  .equal pair.1 pair.2

/-- The entry of a column that is to have a value. -/
def entryOf (pair : String × Value) : Filter.Entry :=
  .predicate (conditionOf pair)

/-- A filter of conditions on bare columns is compiled into their conjunction. -/
theorem compile_outcome
    {filters : Value}
    {pairs : List (String × Value)}
    (parsed : Filter.parse filters = .ok (pairs.map entryOf))
    (nonempty : pairs ≠ [])
    (names : ∀ pair ∈ pairs, Names delimiter quoted pair.1)
    (scalars : ∀ pair ∈ pairs, pair.2.isScalar = true)
    (bound : List Value) :
    (Filter.compile delimiter filters).outcome bound =
      (.ok (Filter.conjunction (pairs.map (equality quoted))), bound ++ pairs.map (·.2)) := by
  have binds : ∀ pair ∈ pairs, (conditionOf pair).boundValues = [pair.2] :=
    fun pair member => Filter.Predicate.boundValues_of_isScalar (scalars pair member)
  have written :
      Filter.AllWritten delimiter (pairs.map conditionOf) (pairs.map (equality quoted)) := by
    rw [Filter.AllWritten, List.forall₂_map_left_iff, List.forall₂_map_right_iff,
      List.forall₂_same]
    intro pair member
    rw [binds pair member]
    exact written_equal (names pair member) (scalars pair member)
  have values : (pairs.map conditionOf).flatMap Filter.Predicate.boundValues = pairs.map (·.2) := by
    rw [List.flatMap_map, List.flatMap_congr binds, List.map_eq_flatMap]
  have entries : pairs.map entryOf = (pairs.map conditionOf).map .predicate := by
    rw [List.map_map]
    rfl
  rw [Filter.compile, parsed, entries, Binding.outcome_bind_of_ok (Binding.outcome_lift _ _),
    ← values]
  exact Filter.compileGroup_eq_conjunction_iff.mpr ⟨by simpa using nonempty, _, written, rfl, rfl⟩

end QueryComposer.Statement
