import QueryComposer.Proofs.Filter.Effective
import QueryComposer.Statement.Select
import QueryComposer.Statement.Update

namespace QueryComposer.Statement

/-!
# No filter is lost

Updates and deletions have an effective condition or are refused. A selection has none exactly if
its filter is left out or has no entries, and such a filter has no condition that could be lost.
-/

open Filter (Effective Vacant predicatesOf)

/-- What a composition yields holds of the statement. -/
theorem holds_of_composed
    {composition : Binding String}
    {holds : String → List Value → Prop}
    (yields : composition.Yields holds)
    {statement : Composed}
    (succeeded : composed composition = .ok statement) :
    holds statement.sql statement.params := by
  obtain ⟨⟨sql, params⟩, collected, rfl⟩ := Success.map_eq_ok_iff.mp succeeded
  exact yields.of_collect collected

/-- A vacant filter is refused where one is demanded. -/
theorem requireFilter_of_vacant
    {filters : Value}
    (vacant : Vacant filters) :
    requireFilter filters = .error .emptyFilters := by
  unfold requireFilter
  rw [Filter.isEmpty_of_vacant vacant]
  rfl

section Demanded

variable (delimiter : String) (table : Value) {filters : Value}

/-- A deletion without a filter is refused. -/
theorem delete_of_vacant (vacant : Vacant filters) :
    delete delimiter table filters = .error .emptyFilters := by
  unfold delete
  rw [requireFilter_of_vacant vacant]
  rfl

/-- An update without a filter is refused, if there are values at all. -/
theorem update_of_vacant
    (vacant : Vacant filters)
    {values : Value}
    (given : values.isTruthy = true) :
    update delimiter table values filters = .error .emptyFilters := by
  unfold update
  rw [requireFilter_of_vacant vacant, given]
  rfl

/-- A deletion ends in an effective condition, which has all of its parameters. -/
theorem delete_effective
    {statement : Composed}
    (succeeded : delete delimiter table filters = .ok statement) :
    ∃ target condition,
      Identifier.quote delimiter table = .ok target ∧
        statement.sql = "DELETE FROM " ++ target ++ " WHERE " ++ condition ∧
        Effective delimiter filters condition statement.params := by
  refine @holds_of_composed _
    (fun sql params =>
      ∃ target condition,
        Identifier.quote delimiter table = .ok target ∧
          sql = "DELETE FROM " ++ target ++ " WHERE " ++ condition ∧
          Effective delimiter filters condition params)
    ?_ statement succeeded
  apply Binding.Yields.lift_bind
  intro _ _
  apply (Filter.compile_effective delimiter filters).bind
  intro condition params effective
  apply Binding.Yields.lift_bind
  intro target quoted
  refine .pure ⟨target, condition, quoted, rfl, ?_⟩
  rw [List.append_nil]
  exact effective

/-- An assignment binds the value that it assigns. -/
theorem assignment_values (pair : Value × Value) :
    (assignment delimiter pair).Yields fun _ bound => bound = [pair.2] := by
  rcases pair with ⟨key, value⟩
  unfold assignment
  apply Binding.Yields.lift_bind
  intro name _
  split
  next column operator _ =>
    split
    · exact .throw _
    · next change _ =>
      apply Binding.Yields.lift_bind
      intro quoted _
      apply (Binding.Yields.bindValue value).bind
      rintro _ _ rfl
      cases change with
      | none =>
          exact .pure rfl
      | some sign =>
          exact .pure rfl

/-- Assignments bind the values that they assign, one by one. -/
theorem assignments_values
    (pairs : List (Value × Value)) :
    (assignments delimiter pairs).Yields fun _ bound => bound = pairs.map (·.2) := by
  induction pairs with
  | nil =>
      exact .pure rfl
  | cons pair rest inductionHypothesis =>
      rw [assignments]
      apply (assignment_values delimiter pair).bind
      rintro text _ rfl
      apply inductionHypothesis.bind
      rintro texts _ rfl
      exact .pure (by simp)

/-- An update ends in an effective condition, whose parameters follow the assigned values. -/
theorem update_effective
    {values : Value}
    {statement : Composed}
    (succeeded : update delimiter table values filters = .ok statement) :
    ∃ target assigned condition pairs params,
      Identifier.quote delimiter table = .ok target ∧
        statement.sql = "UPDATE " ++ target ++ " SET " ++ assigned ++ " WHERE " ++ condition ∧
        values = .map pairs ∧
        statement.params = pairs.map (·.2) ++ params ∧
        Effective delimiter filters condition params := by
  refine @holds_of_composed _
    (fun sql bound =>
      ∃ target assigned condition pairs params,
        Identifier.quote delimiter table = .ok target ∧
          sql = "UPDATE " ++ target ++ " SET " ++ assigned ++ " WHERE " ++ condition ∧
          values = .map pairs ∧
          bound = pairs.map (·.2) ++ params ∧
          Effective delimiter filters condition params)
    ?_ statement succeeded
  apply Binding.Yields.guard
  intro _
  apply Binding.Yields.lift_bind
  intro _ _
  apply Binding.Yields.lift_bind
  intro pairs isMap
  apply (assignments_values delimiter pairs).bind
  rintro assigned _ rfl
  apply (Filter.compile_effective delimiter filters).bind
  intro condition params effective
  apply Binding.Yields.lift_bind
  intro target quoted
  have shape : values = .map pairs := by
    cases values with
    | map given =>
        cases isMap
        rfl
    | _ =>
        cases isMap
  refine .pure ⟨target, _, condition, pairs, params, quoted, rfl, shape, ?_, effective⟩
  rw [List.append_nil]

end Demanded

/-- The text names the columns and the tables of a selection. -/
def NamesSelected
    (delimiter : String)
    (columns tables : Value)
    (head : String) : Prop :=
  ∃ names selected source,
    listOf columns = .ok names ∧
      quoteAll delimiter names = .ok selected ∧
      Table.compile delimiter tables = .ok source ∧
      head = "SELECT " ++ selected ++ " FROM " ++ source

/-- The text is the condition of a selection with the word before it, or nothing. -/
def ConditionOf
    (delimiter : String)
    (filters : Value)
    (text : String)
    (params : List Value) : Prop :=
  (Vacant filters ∧ predicatesOf filters = [] ∧ text = "" ∧ params = []) ∨
    (¬ Vacant filters ∧
      ∃ condition, text = " WHERE " ++ condition ∧ Effective delimiter filters condition params)

/-- A selection has an effective condition, or none if its filter is vacant. -/
theorem whereClause_effective
    (delimiter : String)
    (filters : Value) :
    (whereClause delimiter filters).Yields (ConditionOf delimiter filters) := by
  unfold whereClause
  apply Binding.Yields.lift_bind
  intro isEmpty decided
  have known := Filter.vacant_iff_of_isEmpty decided
  cases isEmpty with
  | true =>
      have vacant := known.mp rfl
      exact .pure (.inl ⟨vacant, Filter.predicatesOf_of_vacant vacant, rfl, rfl⟩)
  | false =>
      have given : ¬ Vacant filters := by
        intro vacant
        cases known.mpr vacant
      apply (Filter.compile_effective delimiter filters).bind
      intro condition params effective
      refine .pure (.inr ⟨given, condition, rfl, ?_⟩)
      rw [List.append_nil]
      exact effective

/-- Between its tables and its order a selection has nothing but the condition of its filter. -/
theorem select_effective
    {delimiter : String}
    {columns tables filters order : Value}
    {statement : Composed}
    (succeeded : select delimiter columns tables filters order = .ok statement) :
    ∃ head condition ordering,
      statement.sql = head ++ condition ++ ordering ∧
        NamesSelected delimiter columns tables head ∧
        ConditionOf delimiter filters condition statement.params ∧
        orderClause delimiter order = .ok ordering := by
  refine @holds_of_composed _
    (fun sql params =>
      ∃ head condition ordering,
        sql = head ++ condition ++ ordering ∧
          NamesSelected delimiter columns tables head ∧
          ConditionOf delimiter filters condition params ∧
          orderClause delimiter order = .ok ordering)
    ?_ statement succeeded
  apply Binding.Yields.lift_bind
  intro names listed
  apply Binding.Yields.guard
  intro _
  apply Binding.Yields.lift_bind
  intro selected quoted
  apply Binding.Yields.lift_bind
  intro source compiled
  apply (whereClause_effective delimiter filters).bind
  intro condition params conditional
  apply Binding.Yields.lift_bind
  intro ordering ordered
  refine .pure ⟨_, condition, ordering, rfl, ?_, ?_, ordered⟩
  · exact ⟨names, selected, source, listed, quoted, compiled, rfl⟩
  · rw [List.append_nil]
    exact conditional

/-- What becomes of a filter in the statements that it is part of. -/
structure NeverLost
    (delimiter : String)
    (filters : Value) : Prop where
  deletionRefused :
    Vacant filters →
    ∀ table, delete delimiter table filters = .error .emptyFilters
  updateRefused :
    Vacant filters →
    ∀ table values,
      values.isTruthy = true →
      update delimiter table values filters = .error .emptyFilters
  deletion :
    ∀ table statement,
      delete delimiter table filters = .ok statement →
      ∃ target condition,
        Identifier.quote delimiter table = .ok target ∧
          statement.sql = "DELETE FROM " ++ target ++ " WHERE " ++ condition ∧
          Effective delimiter filters condition statement.params
  update :
    ∀ table values statement,
      update delimiter table values filters = .ok statement →
      ∃ target assigned condition pairs params,
        Identifier.quote delimiter table = .ok target ∧
          statement.sql = "UPDATE " ++ target ++ " SET " ++ assigned ++ " WHERE " ++ condition ∧
          values = .map pairs ∧
          statement.params = pairs.map (·.2) ++ params ∧
          Effective delimiter filters condition params
  selection :
    ∀ columns tables order statement,
      select delimiter columns tables filters order = .ok statement →
      ∃ head condition ordering,
        statement.sql = head ++ condition ++ ordering ∧
          NamesSelected delimiter columns tables head ∧
          ConditionOf delimiter filters condition statement.params ∧
          orderClause delimiter order = .ok ordering

/--
A filter is never silently lost.

Whatever is given as a filter, no update and no deletion goes without an effective condition, and
no selection drops a condition that it was given.
-/
theorem filter_never_lost
    (delimiter : String)
    (filters : Value) :
    NeverLost delimiter filters where
  deletionRefused vacant table := delete_of_vacant delimiter table vacant
  updateRefused vacant table _ given := update_of_vacant delimiter table vacant given
  deletion table _ succeeded := delete_effective delimiter table succeeded
  update table _ _ succeeded := update_effective delimiter table succeeded
  selection _ _ _ _ succeeded := select_effective succeeded

example :
    delete "\"" (.text "t") (.list [
      .list [.map [(.text "a", .int 1)], .text "or", .map []],
      .map [(.text "b >", .int 2)]]) =
        .ok ⟨"DELETE FROM \"t\" WHERE ((\"a\" = ?) AND \"b\" > ?)", [.int 1, .int 2]⟩ := by
  rfl

end QueryComposer.Statement
