import QueryComposer.Proofs.Filter.SameText
import QueryComposer.Statement.Select
import QueryComposer.Statement.Update

namespace QueryComposer.Statement

/-!
# Values never become text

Two calls whose arguments differ in values only compose the same text, and their parameters
correspond to each other one by one, or both are refused for the same reason. In an update that
concerns the values that are assigned as well as those of the filter.
-/

open Binding (Related)
open Filter (SameLiteral SamePairs)

variable {replaced : Value → Value → Prop}

/-- Assignments of the same keys, whatever the values are. -/
inductive SameAssignments (replaced : Value → Value → Prop) : Value → Value → Prop where
  | map
      {pairs pairs' : List (Value × Value)}
      (same : SamePairs replaced pairs pairs') :
      SameAssignments replaced (.map pairs) (.map pairs')
  | unchanged
      {values : Value}
      (notMap : ∀ pairs, values ≠ .map pairs) :
      SameAssignments replaced values values

/-- Statements of one text whose parameters correspond. -/
structure SameText
    (replaced : Value → Value → Prop)
    (statement statement' : Composed) : Prop where
  sql :
    statement.sql = statement'.sql
  params :
    List.Forall₂ replaced statement.params statement'.params

/-- Related compositions give statements of one text. -/
theorem composed_same
    {composition composition' : Binding String}
    (relate : Related replaced Eq composition composition') :
    Same (SameText replaced) (composed composition) (composed composition') :=
  relate.collect.map fun collected => ⟨collected.1, collected.2⟩

/-- An assignment binds its value, and its text is that of its key. -/
theorem assignment_same
    (delimiter : String)
    (key : Value)
    {value value' : Value}
    (replacement : replaced value value') :
    Related replaced Eq
      (assignment delimiter (key, value))
      (assignment delimiter (key, value')) := by
  unfold assignment
  apply (Related.unchanged _).bind
  rintro name _ rfl
  split
  next column operator _ =>
    split
    · exact .throw _
    · next change _ =>
      apply (Related.unchanged _).bind
      rintro quoted _ rfl
      apply (Related.bindValue replacement).bind
      intro _ _ _
      cases change with
      | none =>
          exact .pure rfl
      | some sign =>
          exact .pure rfl

/-- Assignments bind their values, and their texts are those of their keys. -/
theorem assignments_same
    (delimiter : String)
    {pairs pairs' : List (Value × Value)}
    (same : SamePairs replaced pairs pairs') :
    Related replaced Eq (assignments delimiter pairs) (assignments delimiter pairs') := by
  induction same with
  | nil =>
      exact .pure rfl
  | @cons pair pair' rest rest' first others inductionHypothesis =>
      rcases pair with ⟨key, value⟩
      rcases pair' with ⟨key', value'⟩
      obtain ⟨sameKey, replacement⟩ := first
      dsimp only at sameKey replacement
      subst sameKey
      rw [assignments, assignments]
      apply (assignment_same delimiter key replacement).bind
      rintro text _ rfl
      apply inductionHypothesis.bind
      rintro texts _ rfl
      exact .pure rfl

/-- Filters of one shape are demanded alike. -/
theorem requireFilter_same
    {filters filters' : Value}
    (same : SameLiteral replaced filters filters') :
    Same Eq (requireFilter filters) (requireFilter filters') := by
  apply (Filter.isEmpty_same same).bind
  rintro isEmpty _ rfl
  exact .refl _

/-- Deletions whose filters have one shape. -/
theorem delete_same
    (delimiter : String)
    (table : Value)
    {filters filters' : Value}
    (same : SameLiteral replaced filters filters') :
    Same (SameText replaced)
      (delete delimiter table filters)
      (delete delimiter table filters') := by
  apply composed_same
  apply (Related.lift (requireFilter_same same)).bind
  intro _ _ _
  apply (Filter.compile_same delimiter same).bind
  rintro condition _ rfl
  apply (Related.unchanged _).bind
  rintro target _ rfl
  exact .pure rfl

/-- Assignments of the same keys are given alike and have the same pairs, up to the values. -/
theorem pairsOf_same
    {values values' : Value}
    (same : SameAssignments replaced values values') :
    values.isTruthy = values'.isTruthy ∧
      Same (SamePairs replaced) (pairsOf values) (pairsOf values') := by
  cases same with
  | map same =>
      refine ⟨?_, .accepted same⟩
      cases same with
      | nil =>
          rfl
      | cons _ _ =>
          rfl
  | unchanged notMap =>
      refine ⟨rfl, ?_⟩
      cases values with
      | map pairs =>
          exact absurd rfl (notMap pairs)
      | _ =>
          exact .refused _

/-- Updates of the same columns whose filters have one shape. -/
theorem update_same
    (delimiter : String)
    (table : Value)
    {values values' filters filters' : Value}
    (sameValues : SameAssignments replaced values values')
    (same : SameLiteral replaced filters filters') :
    Same (SameText replaced)
      (update delimiter table values filters)
      (update delimiter table values' filters') := by
  obtain ⟨sameTruth, samePairs⟩ := pairsOf_same sameValues
  apply composed_same
  apply Related.guard
  · rw [sameTruth]
  intro _
  apply (Related.lift (requireFilter_same same)).bind
  intro _ _ _
  apply (Related.lift samePairs).bind
  intro pairs pairs' corresponding
  apply (assignments_same delimiter corresponding).bind
  rintro assigned _ rfl
  apply (Filter.compile_same delimiter same).bind
  rintro condition _ rfl
  apply (Related.unchanged _).bind
  rintro target _ rfl
  exact .pure rfl

/-- The conditions of selections whose filters have one shape. -/
theorem whereClause_same
    (delimiter : String)
    {filters filters' : Value}
    (same : SameLiteral replaced filters filters') :
    Related replaced Eq (whereClause delimiter filters) (whereClause delimiter filters') := by
  apply (Related.lift (Filter.isEmpty_same same)).bind
  rintro isEmpty _ rfl
  cases isEmpty with
  | true =>
      exact .pure rfl
  | false =>
      apply (Filter.compile_same delimiter same).bind
      rintro condition _ rfl
      exact .pure rfl

/-- Selections whose filters have one shape. -/
theorem select_same
    (delimiter : String)
    (columns tables order : Value)
    {filters filters' : Value}
    (same : SameLiteral replaced filters filters') :
    Same (SameText replaced)
      (select delimiter columns tables filters order)
      (select delimiter columns tables filters' order) := by
  apply composed_same
  apply (Related.unchanged _).bind
  rintro names _ rfl
  apply Related.guard Iff.rfl
  intro _
  apply (Related.unchanged _).bind
  rintro selected _ rfl
  apply (Related.unchanged _).bind
  rintro source _ rfl
  apply (whereClause_same delimiter same).bind
  rintro condition _ rfl
  apply (Related.unchanged _).bind
  rintro ordering _ rfl
  exact .pure rfl

/--
Bound values never influence the text of a statement.

What takes the place of a value is arbitrary, so that the parameters correspond to each other
exactly as the values of the two filters, and of the two rows of an update, do.
-/
theorem values_never_become_text
    (replaced : Value → Value → Prop)
    (delimiter : String)
    (table columns tables order : Value)
    {values values' filters filters' : Value}
    (sameValues : SameAssignments replaced values values')
    (sameFilters : SameLiteral replaced filters filters') :
    Related replaced Eq (Filter.compile delimiter filters) (Filter.compile delimiter filters') ∧
      Same (SameText replaced)
        (update delimiter table values filters)
        (update delimiter table values' filters') ∧
      Same (SameText replaced)
        (delete delimiter table filters)
        (delete delimiter table filters') ∧
      Same (SameText replaced)
        (select delimiter columns tables filters order)
        (select delimiter columns tables filters' order) :=
  ⟨Filter.compile_same delimiter sameFilters,
    update_same delimiter table sameValues sameFilters,
    delete_same delimiter table sameFilters,
    select_same delimiter columns tables order sameFilters⟩

/-- A text that looks like a condition is bound in the place of a number like any other value. -/
theorem values_never_become_text_injected :
    let number := Value.int 1
    let injected := Value.text "1 OR 1 = 1"
    let replaced := fun value value' => value = number ∧ value' = injected
    let assigned := fun value => Value.map [(.text "visits +=", value)]
    let filter := fun value =>
      Value.list [
        .map [(.text "id", .list [value, value])],
        .text "or",
        .list [.map [(.text "name LIKE", value)], .map [(.text "id <>", .column (.text "visits"))]]]
    SameAssignments replaced (assigned number) (assigned injected) ∧
      SameLiteral replaced (filter number) (filter injected) ∧
      Same (SameText replaced)
        (update "\"" (.text "users") (assigned number) (filter number))
        (update "\"" (.text "users") (assigned injected) (filter injected)) := by
  intro number injected replaced assigned filter
  have replacement : replaced number injected := ⟨rfl, rfl⟩
  have sameValues : SameAssignments replaced (assigned number) (assigned injected) :=
    .map (.cons ⟨rfl, replacement⟩ .nil)
  have member : Filter.SameMember replaced number injected := .scalar rfl rfl replacement
  have listed : SameLiteral replaced
      (.map [(.text "id", .list [number, number])])
      (.map [(.text "id", .list [injected, injected])]) :=
    .map (.cons ⟨rfl, .list (.cons member (.cons member .nil))⟩ .nil)
  have matching : SameLiteral replaced
      (.map [(.text "name LIKE", number)])
      (.map [(.text "name LIKE", injected)]) :=
    .map (.cons ⟨rfl, .scalar rfl rfl replacement⟩ .nil)
  have compared : SameLiteral replaced
      (.map [(.text "id <>", .column (.text "visits"))])
      (.map [(.text "id <>", .column (.text "visits"))]) :=
    .map (.cons ⟨rfl, .column _⟩ .nil)
  have sameFilters : SameLiteral replaced (filter number) (filter injected) :=
    .list (.cons listed (.cons (.unchanged rfl)
      (.cons (.list (.cons matching (.cons compared .nil))) .nil)))
  have same := values_never_become_text replaced "\"" (.text "users") .null .null .null
    sameValues sameFilters
  exact ⟨sameValues, sameFilters, same.2.1⟩

end QueryComposer.Statement
