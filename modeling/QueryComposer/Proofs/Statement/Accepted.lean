import QueryComposer.Proofs.Statement.Upsert

namespace QueryComposer.Statement

/-!
# Accepted insertions

An insertion is accepted if its rows are and the statement for their columns can be composed.
Then everything that an update in place of one of the rows names has been quoted already, so that
such an update can only be refused for the value of a key column.
-/

open Database (firstColumns)

/-- The rows of a value set are accepted, and the statement inserts one of them into a table. -/
structure Accepted
    (delimiter : String)
    (table values : Value)
    (rows : List Row)
    (sql : String) : Prop where
  normalized : normalizeRows values = .ok rows
  composed : insert delimiter table (.list ((firstColumns rows).map .text)) = .ok sql

/-- Every value of a key column is a scalar. -/
def ScalarKeys
    (row : Row)
    (keys : List Value) : Prop :=
  ∀ pair ∈ row, Value.text (Filter.columnOf pair.1) ∈ keys → pair.2.isScalar = true

/-- The quoted form of a column; nothing for one that cannot be quoted. -/
def quotedColumn
    (delimiter column : String) :
    String :=
  match Identifier.quote delimiter (.text column) with
  | .ok quoted => quoted
  | .error _ => ""

/-- A column of a key that can be quoted is named by its quoted form. -/
theorem names_of_quote
    {delimiter key quoted : String}
    (accepted : Identifier.quote delimiter (.text (Filter.columnOf key)) = .ok quoted) :
    Names delimiter (quotedColumn delimiter) (Filter.columnOf key) := by
  refine ⟨Filter.bare_of_quote accepted, ?_⟩
  rw [quotedColumn, accepted]

/-- The table and the columns of a statement that could be composed are quoted. -/
theorem quoted_of_insert
    {delimiter sql : String}
    {table : Value}
    {columns : List String}
    (composed : insert delimiter table (.list (columns.map .text)) = .ok sql) :
    (∃ target, Identifier.quote delimiter table = .ok target) ∧
      ∀ column ∈ columns, Names delimiter (quotedColumn delimiter) (Filter.columnOf column) := by
  unfold insert at composed
  split at composed
  · cases composed
  · obtain ⟨keys, listed, composed⟩ := Success.bind_eq_ok_iff.mp composed
    obtain ⟨names, checked, composed⟩ := Success.bind_eq_ok_iff.mp composed
    obtain ⟨quoted, quotedColumns, composed⟩ := Success.bind_eq_ok_iff.mp composed
    obtain ⟨target, isTarget, _⟩ := Success.bind_eq_ok_iff.mp composed
    cases listed
    have texts : (columns.map Value.text).mapM checkColumn = .ok columns := by
      rw [Success.mapM_eq_ok_iff, List.forall₂_map_left_iff]
      exact List.forall₂_same.mpr fun _ _ => rfl
    rw [texts] at checked
    cases checked
    obtain ⟨pieces, quotedEach, _⟩ := Success.bind_eq_ok_iff.mp quotedColumns
    refine ⟨⟨target, isTarget⟩, ?_⟩
    intro column member
    obtain ⟨piece, accepted⟩ :=
      Success.exists_of_mem_of_mapM_eq_ok quotedEach _ (List.mem_map_of_mem member)
    exact names_of_quote accepted

namespace Accepted

variable
  {delimiter sql : String}
  {table values : Value}
  {rows : List Row}

/-- The table of an accepted insertion is named by a text. -/
theorem table_eq_text (accepted : Accepted delimiter table values rows sql) :
    ∃ name, table = .text name := by
  obtain ⟨target, isTarget⟩ := (quoted_of_insert accepted.composed).1
  cases table with
  | text name =>
      exact ⟨name, rfl⟩
  | _ =>
      cases isTarget

/-- A row in the way of an accepted one is updated if it can be: its key columns are scalars. -/
theorem upsertUpdate_of_replaceable
    (accepted : Accepted delimiter table values rows sql)
    {row : Row}
    (member : row ∈ rows)
    {keys : List Value}
    (nonempty : keys ≠ [])
    (scalars : ScalarKeys row keys)
    (replaceable : Replaceable row keys) :
    ∃ update,
      upsertUpdate delimiter table (.map (toPairs row)) (.list keys) = .ok (some update) := by
  obtain ⟨⟨target, isTarget⟩, named⟩ := quoted_of_insert accepted.composed
  have names : ∀ pair ∈ row,
      Names delimiter (quotedColumn delimiter) (Filter.columnOf pair.1) := by
    intro pair inRow
    apply named
    apply (mem_columns_iff accepted.normalized row member pair.1).mp
    exact List.mem_map_of_mem inRow
  have scalarsPlain :
      ∀ pair ∈ plainColumns row, Value.text pair.1 ∈ keys → pair.2.isScalar = true :=
    forall_plainColumns
      (fun column value => Value.text column ∈ keys → value.isScalar = true) scalars
  obtain ⟨_, _, _, composed⟩ :=
    Statement.upsertUpdate_of_replaceable isTarget names scalarsPlain nonempty replaceable
  exact ⟨_, composed⟩

/-- Every row binds its own values in the order of the columns of the first one. -/
theorem rowValues_eq
    (accepted : Accepted delimiter table values rows sql)
    {row : Row}
    (member : row ∈ rows) :
    List.Forall₂ (fun column value => Association.get? row column = some value)
      (firstColumns rows) (Database.rowValues (firstColumns rows) row) :=
  (normalizeRows_eq_ok_iff.mp accepted.normalized).2.finds member

end Accepted

end QueryComposer.Statement

namespace QueryComposer.Database

open Statement (Accepted Replaceable ScalarKeys toPairs upsertUpdate)

/-- What takes the place of a row that failed: its update, nothing, or a key is misused. -/
theorem fallback_cases
    {σ : Type}
    (db : Database σ)
    {table values : Value}
    {rows : List Statement.Row}
    {sql : String}
    (accepted : Accepted db.delimiter table values rows sql)
    {row : Statement.Row}
    (member : row ∈ rows)
    {keys : List Value}
    (nonempty : keys ≠ [])
    (scalars : ScalarKeys row keys)
    (failure : Connection.Failure) :
    (∃ update,
      db.fallback table row keys failure = .ok (some update) ∧
        failure.constraintViolation = true ∧ Replaceable row keys ∧
        upsertUpdate db.delimiter table (.map (toPairs row)) (.list keys) = .ok (some update)) ∨
      (db.fallback table row keys failure = .ok none ∧
        (failure.constraintViolation = true → ¬ Replaceable row keys)) ∨
      failure.constraintViolation = true ∧ (∃ key ∈ keys, key.isHashable = false) ∧
        ∃ cause, db.fallback table row keys failure = .error (.misuse cause) := by
  cases violates : failure.constraintViolation with
  | false =>
      refine .inr (.inl ⟨?_, by simp⟩)
      rw [fallback, violates]
      rfl
  | true =>
      have falls :
          db.fallback table row keys failure =
            upsertUpdate db.delimiter table (.map (toPairs row)) (.list keys) := by
        rw [fallback, violates, if_pos rfl]
        rfl
      rw [falls]
      by_cases replaceable : Replaceable row keys
      · obtain ⟨update, composed⟩ :=
          accepted.upsertUpdate_of_replaceable member nonempty scalars replaceable
        exact .inl ⟨update, composed, rfl, replaceable, composed⟩
      · rcases Statement.upsertUpdate_of_not_replaceable replaceable with nothing | misused
        · exact .inr (.inl ⟨nothing, fun _ => replaceable⟩)
        · exact .inr (.inr ⟨rfl, misused⟩)

end QueryComposer.Database
