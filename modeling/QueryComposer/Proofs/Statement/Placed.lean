import QueryComposer.Proofs.Statement.Effective
import QueryComposer.Proofs.Table.Scope
import QueryComposer.Statement.Upsert

namespace QueryComposer.Statement

/-!
# Placeholders of statements

Every composed statement has one placeholder for each of its parameters, and an insertion one for
each of its columns.
-/

open Filter (Bound)
open Placeholder (Placed Plain)

/-- A list of quoted identifiers holds no placeholder. -/
theorem bound_of_quoteAll
    (mark : QuoteMark)
    {identifiers : List Value}
    {text : String}
    (accepted : quoteAll mark.text identifiers = .ok text) :
    Bound text [] := by
  obtain ⟨quoted, quotedEach, written⟩ := Success.bind_eq_ok_iff.mp accepted
  cases written
  have each : ∀ name ∈ quoted, Placed name.toList 0 :=
    Success.forall_of_mapM_eq_ok (fun _ _ => Identifier.placed_of_quote mark) quotedEach
  simpa [Bound] using Filter.placed_commas each

theorem plain_of_arithmetic?
    {operator sign : String}
    (known : arithmetic? operator = some (some sign)) :
    Plain sign.toList := by
  unfold arithmetic? at known
  split at known <;> cases known <;> decide

/-- An assignment has one placeholder, for the value that it binds. -/
theorem assignment_bound
    (mark : QuoteMark)
    (pair : Value × Value) :
    (assignment mark.text pair).Yields fun text values =>
      Bound text values ∧ values.length = 1 := by
  rcases pair with ⟨key, value⟩
  unfold assignment
  apply Binding.Yields.lift_bind
  intro name _
  split
  next column operator _ =>
    split
    · exact .throw _
    · next change known =>
        apply Binding.Yields.lift_bind
        intro quoted accepted
        apply (Binding.Yields.bindValue value).bind
        intro _ values same
        rw [same]
        have target : Bound quoted [] := .quoted accepted
        have mark : Bound placeholder [value] := Placed.mark
        have opened := target.append (Bound.plain " = " (by decide))
        split
        · exact .pure ⟨opened.append mark, rfl⟩
        · next sign =>
            have signed := Bound.plain sign (plain_of_arithmetic? known)
            have again := (opened.append target).append (Bound.plain " " (by decide))
            have changed := (again.append signed).append (Bound.plain " " (by decide))
            exact .pure ⟨changed.append mark, rfl⟩

/-- Assignments have one placeholder each, for the values that they bind. -/
theorem assignments_bound
    (mark : QuoteMark)
    (pairs : List (Value × Value)) :
    (assignments mark.text pairs).Yields fun texts values =>
      (∀ text ∈ texts, Placed text.toList 1) ∧ values.length = texts.length := by
  induction pairs with
  | nil =>
      exact .pure (by simp)
  | cons pair rest inductionHypothesis =>
      rw [assignments]
      apply (assignment_bound mark pair).bind
      rintro first values ⟨bound, one⟩
      apply inductionHypothesis.bind
      rintro others valuesLater ⟨each, counted⟩
      refine .pure ⟨?_, ?_⟩
      · intro text member
        rcases List.mem_cons.mp member with isFirst | inOthers
        · rw [isFirst, ← one]
          exact bound
        · exact each text inOthers
      · simp only [List.append_nil, List.length_append, List.length_cons]
        omega

/-- An insertion has one placeholder for each of its columns. -/
theorem placed_of_insert
    (mark : QuoteMark)
    {table columns : Value}
    {sql : String}
    (succeeded : insert mark.text table columns = .ok sql) :
    ∃ keys, members columns = .ok keys ∧ Placed sql.toList keys.length := by
  unfold insert at succeeded
  split at succeeded
  · cases succeeded
  · obtain ⟨keys, listed, succeeded⟩ := Success.bind_eq_ok_iff.mp succeeded
    obtain ⟨names, checked, succeeded⟩ := Success.bind_eq_ok_iff.mp succeeded
    obtain ⟨quoted, quotedNames, succeeded⟩ := Success.bind_eq_ok_iff.mp succeeded
    obtain ⟨target, quotedTable, succeeded⟩ := Success.bind_eq_ok_iff.mp succeeded
    cases succeeded
    have sameLength := (Success.mapM_eq_ok_iff.mp checked).length_eq
    have named : Bound ("INSERT INTO " ++ target) [] :=
      (Bound.plain "INSERT INTO " (by decide)).append (.quoted quotedTable)
    have opened := (named.append (Bound.plain " (" (by decide))).append
      (bound_of_quoteAll mark quotedNames)
    have head := opened.append (Bound.plain ") VALUES (" (by decide))
    have listedMarks := Placed.append head (Filter.placed_placeholders names.length)
    have whole := Placed.append listedMarks (Placed.ofPlain (show Plain ")".toList by decide))
    refine ⟨keys, listed, ?_⟩
    rw [sameLength]
    simpa [String.toList_append] using whole

/-- An update has one placeholder for each of its parameters. -/
theorem bound_of_update
    (mark : QuoteMark)
    {table values filters : Value}
    {statement : Composed}
    (succeeded : update mark.text table values filters = .ok statement) :
    Bound statement.sql statement.params := by
  refine holds_of_composed ?_ succeeded
  apply Binding.Yields.guard
  intro _
  apply Binding.Yields.lift_bind
  intro _ _
  apply Binding.Yields.lift_bind
  intro pairs _
  apply (assignments_bound mark pairs).bind
  rintro assigned assignedValues ⟨each, counted⟩
  apply (Filter.compile_bound mark filters).bind
  intro condition filterValues bound
  apply Binding.Yields.lift_bind
  intro target accepted
  have assignedText : Bound (",".intercalate assigned) assignedValues := by
    rw [Bound, counted]
    simpa using Filter.placed_commas each
  have named := (Bound.plain "UPDATE " (by decide)).append (Bound.quoted accepted)
  have opened := (named.append (Bound.plain " SET " (by decide))).append assignedText
  have whole := (opened.append (Bound.plain " WHERE " (by decide))).append bound
  exact .pure (by simpa using whole)

/-- A deletion has one placeholder for each of its parameters. -/
theorem bound_of_delete
    (mark : QuoteMark)
    {table filters : Value}
    {statement : Composed}
    (succeeded : delete mark.text table filters = .ok statement) :
    Bound statement.sql statement.params := by
  refine holds_of_composed ?_ succeeded
  apply Binding.Yields.lift_bind
  intro _ _
  apply (Filter.compile_bound mark filters).bind
  intro condition values bound
  apply Binding.Yields.lift_bind
  intro target accepted
  have named := (Bound.plain "DELETE FROM " (by decide)).append (Bound.quoted accepted)
  have whole := (named.append (Bound.plain " WHERE " (by decide))).append bound
  exact .pure (by simpa using whole)

/-- The condition of a selection has one placeholder for each value that it binds. -/
theorem whereClause_bound
    (mark : QuoteMark)
    (filters : Value) :
    (whereClause mark.text filters).Yields Bound := by
  unfold whereClause
  apply Binding.Yields.lift_bind
  intro isEmpty _
  split
  · exact .pure (.plain "" (by decide))
  · apply (Filter.compile_bound mark filters).bind
    intro condition values bound
    exact .pure (by simpa using (Bound.plain " WHERE " (by decide)).append bound)

/-- The order of a selection holds no placeholder. -/
theorem bound_of_orderClause
    (mark : QuoteMark)
    {order : Value}
    {text : String}
    (accepted : orderClause mark.text order = .ok text) :
    Bound text [] := by
  obtain ⟨columns, _, accepted⟩ := Success.bind_eq_ok_iff.mp accepted
  split at accepted
  · cases accepted
    exact .plain "" (by decide)
  · obtain ⟨quoted, quotedAll, accepted⟩ := Success.bind_eq_ok_iff.mp accepted
    cases accepted
    exact (Bound.plain " ORDER BY " (by decide)).append (bound_of_quoteAll mark quotedAll)

/-- A selection has one placeholder for each of its parameters. -/
theorem bound_of_select
    (mark : QuoteMark)
    {columns tables filters order : Value}
    {statement : Composed}
    (succeeded : select mark.text columns tables filters order = .ok statement) :
    Bound statement.sql statement.params := by
  refine holds_of_composed ?_ succeeded
  apply Binding.Yields.lift_bind
  intro names _
  apply Binding.Yields.guard
  intro _
  apply Binding.Yields.lift_bind
  intro selected quotedNames
  apply Binding.Yields.lift_bind
  intro source compiled
  apply (whereClause_bound mark filters).bind
  intro condition values bound
  apply Binding.Yields.lift_bind
  intro ordering ordered
  have selectedText := (Bound.plain "SELECT " (by decide)).append
    (bound_of_quoteAll mark quotedNames)
  have opened := (selectedText.append (Bound.plain " FROM " (by decide))).append
    (Table.bound_of_compile mark compiled)
  have whole := (opened.append bound).append (bound_of_orderClause mark ordered)
  exact .pure (by simpa using whole)

/-- The update in place of an insertion has one placeholder for each of its parameters. -/
theorem bound_of_upsertUpdate
    (mark : QuoteMark)
    {table row keys : Value}
    {statement : Composed}
    (succeeded : upsertUpdate mark.text table row keys = .ok (some statement)) :
    Bound statement.sql statement.params := by
  obtain ⟨pairs, _, succeeded⟩ := Success.bind_eq_ok_iff.mp succeeded
  obtain ⟨plain, _, succeeded⟩ := Success.bind_eq_ok_iff.mp succeeded
  obtain ⟨keyColumns, _, succeeded⟩ := Success.bind_eq_ok_iff.mp succeeded
  obtain ⟨found, _, succeeded⟩ := Success.bind_eq_ok_iff.mp succeeded
  split at succeeded
  · cases succeeded
  · dsimp only at succeeded
    split at succeeded
    · cases succeeded
    · obtain ⟨update, updated, succeeded⟩ := Success.bind_eq_ok_iff.mp succeeded
      cases succeeded
      exact bound_of_update mark updated

end QueryComposer.Statement
