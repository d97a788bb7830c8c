import QueryComposer.Proofs.Database.Conversation
import QueryComposer.Proofs.Database.Placeholders
import QueryComposer.Proofs.Statement.Accepted
import QueryComposer.Proofs.Statement.Refusals

namespace QueryComposer.Database

/-!
# Rows are inserted with their own values

The columns of an insertion are those of the first row, and every row is looked up under each of
them. A row that has not got one of the columns, or too few values for the statement, would end the
insertion after the rows before it had been inserted. `insertGuarded` fails at such a row; it is no
different from `insert`, because an accepted value set has no such row.
-/

open Connection (Action Link)
open Placeholder (Aligned read?)
open Statement (Accepted OfRows Row RowsOf SharedColumns normalizeRows toPairs)

variable {σ : Type}

/-- The number of parameters that a driver finds in a statement; nothing if it refuses the text. -/
def slots?
    (style : ParamStyle)
    (statement : Prepared) :
    Option Nat :=
  match statement.driverSql with
  | .text sql => (read? style sql.toList).map (·.count none)
  | _ => none

/-- What an insertion fails with that looks for a column in vain, or binds too many or too few. -/
structure Guard where
  missing : String → Error
  miscounted : Error

/-- The values of a row in the order of the columns; all are found, one for each parameter. -/
def Guard.bind
    (guard : Guard)
    (style : ParamStyle)
    (statement : Prepared)
    (columns : List String)
    (row : Row) :
    Except Error (List Value) := do
  let params ← columns.mapM fun column =>
    match Association.get? row column with
    | some value => .ok value
    | none => .error (guard.missing column)
  if slots? style statement = some params.length then
    return params
  else
    throw guard.miscounted

/-- Insert rows one after the other, and fail at the first one that the guard does not let pass. -/
def insertRowsGuarded
    (db : Database σ)
    (guard : Guard)
    (table : Value)
    (statement : Prepared)
    (columns : List String)
    (keys : List Value) :
    List Row →
    Action σ Int
  | [] => return 0
  | row :: rest => do
      let params ← Action.lift (guard.bind db.link.driver.paramStyle statement columns row)
      let first ←
        if keys.isEmpty then
          db.link.executeCount statement params
        else
          db.insertOrUpdate table statement params row keys
      let others ← db.insertRowsGuarded guard table statement columns keys rest
      return first + others

/-- Insert one row or many, and fail at the first one that the guard does not let pass. -/
def insertGuarded
    (db : Database σ)
    (guard : Guard)
    (table values upsertKeys : Value) :
    Action σ Int := do
  let rows ← Action.lift (normalizeRows values)
  let columns := firstColumns rows
  let sql ← Action.lift (Statement.insert db.delimiter table (.list (columns.map .text)))
  let keys ← Action.lift (keyColumns upsertKeys)
  let affected ← db.insertRowsGuarded guard table (db.link.prepare sql) columns keys rows
  Action.emit {
    level := .debug
    logger := loggerName
    fields := [
      ("table", table),
      ("rows", .int rows.length),
      ("affected_rows", .int affected),
      ("event", .text "insert.completed")] }
  return affected

/-- The parameters are the values of the row, one for each placeholder of the statement. -/
structure BindsOwn
    (sql : String)
    (columns : List String)
    (row : Row)
    (params : List Value) : Prop where
  own : List.Forall₂ (fun column value => Association.get? row column = some value) columns params
  aligned : Aligned sql params.length

/-- A row passes exactly if every column is found in it and there are as many as parameters. -/
theorem Guard.bind_eq_ok_iff
    {guard : Guard}
    {style : ParamStyle}
    {statement : Prepared}
    {columns : List String}
    {row : Row}
    {params : List Value} :
    guard.bind style statement columns row = .ok params ↔
      List.Forall₂ (fun column value => Association.get? row column = some value)
          columns params ∧
        slots? style statement = some params.length := by
  have found : ∀ column value,
      (match Association.get? row column with
        | some value => .ok value
        | none => .error (guard.missing column)) = (.ok value : Except Error Value) ↔
        Association.get? row column = some value := by
    intro column value
    cases Association.get? row column <;> simp
  simp only [Guard.bind, Success.bind_eq_ok_iff, Success.mapM_eq_ok_iff, found]
  constructor
  · rintro ⟨values, own, passed⟩
    split at passed
    · next counted =>
        cases passed
        exact ⟨own, counted⟩
    · cases passed
  · rintro ⟨own, counted⟩
    exact ⟨params, own, if_pos counted⟩

/-- A driver finds in an aligned text as many parameters as the text is aligned with. -/
theorem slots?_of_aligned
    {sql : String}
    {parameters : Nat}
    (aligned : Aligned sql parameters)
    (link : Link σ) :
    slots? link.driver.paramStyle (link.prepare sql) = some parameters := by
  have reads := aligned.reading link.driver.paramStyle
  simp only [slots?, Link.prepare, Prepared.ofSql, reads, Option.map_some, aligned.slots]

/-- An accepted row is bound by its own values, one for each placeholder of the insertion. -/
theorem bindsOwn_of_accepted
    (mark : QuoteMark)
    {table values : Value}
    {rows : List Row}
    {sql : String}
    (accepted : Accepted mark.text table values rows sql)
    {row : Row}
    (member : row ∈ rows) :
    BindsOwn sql (firstColumns rows) row (rowValues (firstColumns rows) row) where
  own := accepted.rowValues_eq member
  aligned := by
    rw [rowValues, List.length_map]
    exact aligned_of_insert mark accepted.composed

section Guarded

variable (guard : Guard)

/-- Rows that the guard lets pass with their values are inserted as without it. -/
theorem insertRowsGuarded_eq
    (db : Database σ)
    (table : Value)
    {statement : Prepared}
    {columns : List String}
    (keys : List Value)
    {rows : List Row}
    (passes :
      ∀ row ∈ rows,
        guard.bind db.link.driver.paramStyle statement columns row =
          .ok (rowValues columns row)) :
    db.insertRowsGuarded guard table statement columns keys rows =
      db.insertRows table statement columns keys rows := by
  induction rows with
  | nil =>
      rfl
  | cons row rest inductionHypothesis =>
      obtain ⟨first, others⟩ := List.forall_mem_cons.mp passes
      rw [insertRowsGuarded, insertRows, first, inductionHypothesis others]
      rfl

/-- The guard lets every row of an accepted insertion pass with its own values. -/
theorem bind_of_accepted
    (link : Link σ)
    (mark : QuoteMark)
    {table values : Value}
    {rows : List Row}
    {sql : String}
    (accepted : Accepted mark.text table values rows sql)
    {row : Row}
    (member : row ∈ rows) :
    guard.bind link.driver.paramStyle (link.prepare sql) (firstColumns rows) row =
      .ok (rowValues (firstColumns rows) row) := by
  obtain ⟨own, aligned⟩ := bindsOwn_of_accepted mark accepted member
  exact Guard.bind_eq_ok_iff.mpr ⟨own, slots?_of_aligned aligned link⟩

/-- No insertion fails for the guard. -/
theorem insertGuarded_eq
    (link : Link σ)
    (mark : QuoteMark)
    (table values upsertKeys : Value) :
    (quoting link mark).insertGuarded guard table values upsertKeys =
      (quoting link mark).insert table values upsertKeys := by
  have proceeds : ∀ {α : Type} (result : α) (next : α → Action σ Int),
      Action.lift (.ok result) >>= next = next result :=
    fun _ _ => rfl
  unfold insertGuarded insert
  cases normalized : normalizeRows values with
  | error error =>
      rfl
  | ok rows =>
      rw [proceeds, proceeds]
      dsimp only
      cases composed :
          Statement.insert (quoting link mark).delimiter table
            (.list ((firstColumns rows).map .text)) with
      | error error =>
          rfl
      | ok sql =>
          have same : ∀ keys,
              (quoting link mark).insertRowsGuarded guard table
                  ((quoting link mark).link.prepare sql) (firstColumns rows) keys rows =
                (quoting link mark).insertRows table
                  ((quoting link mark).link.prepare sql) (firstColumns rows) keys rows := by
            intro keys
            apply insertRowsGuarded_eq
            exact fun row => bind_of_accepted guard link mark ⟨normalized, composed⟩
          rw [proceeds, proceeds]
          simp only [same]

end Guarded

/--
A value set is accepted exactly if it consists of rows that share the columns of the first one; it
is refused for having no values, or for not being such a set. Its rows are those that were given,
and they are accepted again. Inserting them is never stopped by the guard, and so each row is bound
by its own values, one for each placeholder of the statement.
-/
theorem insertion_binds_rows :
    (∀ values rows,
      normalizeRows values = .ok rows ↔ RowsOf values rows ∧ SharedColumns rows) ∧
      (∀ values error, normalizeRows values = .error error → OfRows error) ∧
      (∀ values rows,
        normalizeRows values = .ok rows →
        normalizeRows (.list (rows.map fun row => .map (toPairs row))) = .ok rows) ∧
      ∀ (link : Link σ) mark table values,
        (∀ guard upsertKeys,
          (quoting link mark).insertGuarded guard table values upsertKeys =
            (quoting link mark).insert table values upsertKeys) ∧
          ∀ rows sql,
            Accepted mark.text table values rows sql →
            ∀ row ∈ rows,
              BindsOwn sql (firstColumns rows) row (rowValues (firstColumns rows) row) := by
  refine ⟨fun values rows => Statement.normalizeRows_eq_ok_iff, Statement.normalizeRows_refuses,
    fun values rows accepted => ?_, fun link mark table values => ⟨fun guard upsertKeys => ?_, ?_⟩⟩
  · have sharing := (Statement.normalizeRows_eq_ok_iff.mp accepted).2
    exact Statement.normalizeRows_eq_ok_iff.mpr ⟨.list rows, sharing⟩
  · exact insertGuarded_eq guard link mark table values upsertKeys
  · intro rows sql accepted row
    exact bindsOwn_of_accepted mark accepted

/-- Two rows that name their columns in different orders. -/
def reorderedRows : List Row :=
  [[("id", .int 1), ("name", .text "a?")], [("name", .null), ("id", .int 2)]]

/-- The second row is bound in the order of the first one; a row without columns is refused. -/
theorem insertion_binds_rows_reordered :
    let values := Value.tuple (reorderedRows.map fun row => .map (toPairs row))
    normalizeRows values = .ok reorderedRows ∧
      normalizeRows (.list (reorderedRows.map fun row => .map (toPairs row))) =
        .ok reorderedRows ∧
      OfRows (.argument (.rowColumns 1)) ∧
      (∀ guard,
        (quoting scriptedDatabase.link .backtick).insertGuarded guard (.text "g") values .null =
          (quoting scriptedDatabase.link .backtick).insert (.text "g") values .null) ∧
      BindsOwn "INSERT INTO `g` (`id`,`name`) VALUES (?,?)" ["id", "name"]
        [("name", .null), ("id", .int 2)] [.int 2, .null] := by
  intro values
  obtain ⟨accepts, refuses, again, binds⟩ := @insertion_binds_rows Connection.Script
  have same : ∀ row ∈ reorderedRows,
      Statement.sameColumns (Statement.columns row) (firstColumns reorderedRows) = true := by
    simp only [reorderedRows, List.forall_mem_cons]
    decide
  have shared : SharedColumns reorderedRows :=
    ⟨by decide, fun row member => (Statement.sameColumns_iff _ _).mp (same row member)⟩
  have accepted : normalizeRows values = .ok reorderedRows :=
    (accepts _ _).mpr ⟨.tuple reorderedRows, shared⟩
  have composed :
      Statement.insert QuoteMark.backtick.text (.text "g")
          (.list ((firstColumns reorderedRows).map .text)) =
        .ok "INSERT INTO `g` (`id`,`name`) VALUES (?,?)" := by
    rfl
  have refused :
      normalizeRows (.list [.map [(.text "id", .null)], .map []]) =
        .error (.argument (.rowColumns 1)) := by
    rfl
  obtain ⟨guarded, own⟩ := binds scriptedDatabase.link .backtick (.text "g") values
  exact ⟨accepted, again _ _ accepted, refuses _ _ refused, fun guard => guarded guard .null,
    own _ _ ⟨accepted, composed⟩ _ (by simp [reorderedRows])⟩

end QueryComposer.Database
