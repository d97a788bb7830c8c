import QueryComposer.Database.Insertion
import QueryComposer.Proofs.Association
import QueryComposer.Proofs.Success

namespace QueryComposer.Statement

/-!
# Accepted rows

The rows of an accepted value set are its mappings, in their order, and each of them has the
columns of the first one. `normalizeRows_eq_ok_iff` says which value sets are accepted.
-/

open Database (firstColumns)

/-- A row as a mapping. -/
def toPairs (row : Row) : List (Value × Value) :=
  row.map (Prod.map Value.text id)

theorem toPairs_cons
    (column : String)
    (value : Value)
    (rest : Row) :
    toPairs ((column, value) :: rest) = (.text column, value) :: toPairs rest :=
  rfl

/-- The value set is one row, or it lists the rows. -/
inductive RowsOf : Value → List Row → Prop where
  | one (row : Row) : RowsOf (.map (toPairs row)) [row]
  | list (rows : List Row) : RowsOf (.list (rows.map fun row => .map (toPairs row))) rows
  | tuple (rows : List Row) : RowsOf (.tuple (rows.map fun row => .map (toPairs row))) rows

theorem toPairs_of_rowOfPairs
    {pairs : List (Value × Value)}
    {row : Row}
    (accepted : rowOfPairs pairs = .ok row) :
    pairs = toPairs row := by
  induction pairs generalizing row with
  | nil =>
      cases accepted
      rfl
  | cons pair rest inductionHypothesis =>
      rcases pair with ⟨key, value⟩
      obtain ⟨name, checked, accepted⟩ := Success.bind_eq_ok_iff.mp accepted
      obtain ⟨others, acceptedRest, written⟩ := Success.bind_eq_ok_iff.mp accepted
      unfold checkColumn at checked
      split at checked
      · cases checked
        cases written
        rw [inductionHypothesis acceptedRest]
        rfl
      · cases checked

/-- Two lists of columns are the same exactly if they have the same members. -/
theorem sameColumns_iff
    (left right : List String) :
    sameColumns left right = true ↔ ∀ column, column ∈ left ↔ column ∈ right := by
  simp only [sameColumns, Bool.and_eq_true, List.all_eq_true, List.contains_iff_mem]
  constructor
  · rintro ⟨forth, back⟩ column
    exact ⟨forth column, back column⟩
  · intro same
    exact ⟨fun column => (same column).mp, fun column => (same column).mpr⟩

/-- Checked rows are the mappings that were given, and all have the columns that are expected. -/
theorem rows_of_checkRows
    {index : Nat}
    {expected : Option (List String)}
    {given : List Value}
    {rows : List Row}
    (accepted : checkRows index expected given = .ok rows) :
    given = rows.map (fun row => .map (toPairs row)) ∧
      ∀ row ∈ rows, ∀ column,
        column ∈ columns row ↔ column ∈ expected.getD (firstColumns rows) := by
  induction given generalizing index expected rows with
  | nil =>
      cases accepted
      exact ⟨rfl, by simp⟩
  | cons value rest inductionHypothesis =>
      cases value with
      | map pairs =>
          obtain ⟨row, read, accepted⟩ := Success.bind_eq_ok_iff.mp accepted
          dsimp only at accepted
          split at accepted
          · next same =>
              obtain ⟨others, acceptedRest, written⟩ := Success.bind_eq_ok_iff.mp accepted
              cases written
              obtain ⟨mappings, sharing⟩ := inductionHypothesis acceptedRest
              refine ⟨?_, ?_⟩
              · rw [mappings, toPairs_of_rowOfPairs read, List.map_cons]
              · intro other member
                rcases List.mem_cons.mp member with isFirst | inRest
                · rw [isFirst]
                  exact (sameColumns_iff _ _).mp same
                · exact sharing other inRest
          · cases accepted
      | _ =>
          cases accepted

/-- A value set is accepted if it has rows and they are, with the columns of the first one. -/
theorem checkRows_of_normalizeRows
    {values : Value}
    {rows : List Row}
    (accepted : normalizeRows values = .ok rows) :
    ∃ given, rowValues values = .ok given ∧ given ≠ [] ∧ checkRows 0 none given = .ok rows := by
  obtain ⟨given, read, accepted⟩ := Success.bind_eq_ok_iff.mp accepted
  refine ⟨given, read, ?_⟩
  cases given with
  | nil =>
      cases accepted
  | cons first rest =>
      dsimp only at accepted
      split at accepted
      · exact ⟨List.cons_ne_nil _ _, accepted⟩
      · cases accepted

/-- An accepted value set has rows. -/
theorem ne_nil_of_normalizeRows
    {values : Value}
    {rows : List Row}
    (accepted : normalizeRows values = .ok rows) :
    rows ≠ [] := by
  obtain ⟨given, _, nonempty, checked⟩ := checkRows_of_normalizeRows accepted
  have mappings := (rows_of_checkRows checked).1
  rintro rfl
  exact nonempty mappings

/-- The rows of an accepted value set are its own, in their order. -/
theorem rowsOf_of_normalizeRows
    {values : Value}
    {rows : List Row}
    (accepted : normalizeRows values = .ok rows) :
    RowsOf values rows := by
  obtain ⟨given, read, _, checked⟩ := checkRows_of_normalizeRows accepted
  have mappings := (rows_of_checkRows checked).1
  unfold rowValues at read
  split at read <;> cases read
  · cases rows with
    | nil =>
        cases mappings
    | cons row rest =>
        rw [List.map_cons, List.cons.injEq, Value.map.injEq, eq_comm (a := []),
          List.map_eq_nil_iff] at mappings
        rw [mappings.1, mappings.2]
        exact .one row
  · rw [mappings]
    exact .list rows
  · rw [mappings]
    exact .tuple rows

/-- Every accepted row has the columns of the first one. -/
theorem mem_columns_iff
    {values : Value}
    {rows : List Row}
    (accepted : normalizeRows values = .ok rows) :
    ∀ row ∈ rows, ∀ column, column ∈ columns row ↔ column ∈ firstColumns rows := by
  obtain ⟨given, _, _, checked⟩ := checkRows_of_normalizeRows accepted
  exact (rows_of_checkRows checked).2

/-- The first row has columns, and every other row has the same ones. -/
structure SharedColumns (rows : List Row) : Prop where
  nonempty : firstColumns rows ≠ []
  shared : ∀ row ∈ rows, ∀ column, column ∈ columns row ↔ column ∈ firstColumns rows

/-- A row that is looked up column by column has its own value for each of them. -/
theorem SharedColumns.finds
    {rows : List Row}
    (sharing : SharedColumns rows)
    {row : Row}
    (member : row ∈ rows) :
    List.Forall₂ (fun column value => Association.get? row column = some value)
      (firstColumns rows) (Database.rowValues (firstColumns rows) row) := by
  rw [Database.rowValues, List.forall₂_map_right_iff, List.forall₂_same]
  intro column isFirst
  have inRow := (sharing.shared row member column).mpr isFirst
  obtain ⟨value, found⟩ := Association.exists_get?_of_mem inRow
  rw [found]
  rfl

theorem rowOfPairs_toPairs (row : Row) : rowOfPairs (toPairs row) = .ok row := by
  induction row with
  | nil =>
      rfl
  | cons pair rest inductionHypothesis =>
      rcases pair with ⟨column, value⟩
      rw [toPairs_cons, rowOfPairs, inductionHypothesis]
      rfl

/-- Mappings with the columns that are expected pass the check. -/
theorem checkRows_of_shared
    {index : Nat}
    {expected : Option (List String)}
    {rows : List Row}
    (shared :
      ∀ row ∈ rows, ∀ column,
        column ∈ columns row ↔ column ∈ expected.getD (firstColumns rows)) :
    checkRows index expected (rows.map fun row => .map (toPairs row)) = .ok rows := by
  induction rows generalizing index expected with
  | nil =>
      rfl
  | cons row rest inductionHypothesis =>
      obtain ⟨sharedFirst, sharedRest⟩ := List.forall_mem_cons.mp shared
      have same : sameColumns (columns row) (expected.getD (columns row)) = true :=
        (sameColumns_iff _ _).mpr sharedFirst
      have others := @inductionHypothesis (index + 1) (some (expected.getD (columns row))) sharedRest
      rw [List.map_cons, checkRows, rowOfPairs_toPairs]
      refine Success.bind_eq_ok_iff.mpr ⟨row, rfl, ?_⟩
      dsimp only
      rw [if_pos same, others]
      rfl

/-- Rows that are given are checked, unless the first of them has no columns. -/
theorem normalizeRows_of_rowsOf
    {values : Value}
    {rows : List Row}
    (given : RowsOf values rows) :
    normalizeRows values =
      if firstColumns rows = [] then
        .error .emptyValues
      else
        checkRows 0 none (rows.map fun row => .map (toPairs row)) := by
  have read : rowValues values = .ok (rows.map fun row => .map (toPairs row)) := by
    cases given <;> rfl
  rw [normalizeRows, read]
  cases rows with
  | nil =>
      rfl
  | cons row rest =>
      cases row <;> rfl

/-- A value set is accepted exactly if it consists of rows that share the columns of the first. -/
theorem normalizeRows_eq_ok_iff
    {values : Value}
    {rows : List Row} :
    normalizeRows values = .ok rows ↔ RowsOf values rows ∧ SharedColumns rows := by
  constructor
  · intro accepted
    have given := rowsOf_of_normalizeRows accepted
    have shared := mem_columns_iff accepted
    rw [normalizeRows_of_rowsOf given] at accepted
    split at accepted
    · cases accepted
    · next nonempty =>
        exact ⟨given, nonempty, shared⟩
  · rintro ⟨given, nonempty, shared⟩
    rw [normalizeRows_of_rowsOf given, if_neg nonempty]
    exact checkRows_of_shared shared

end QueryComposer.Statement
