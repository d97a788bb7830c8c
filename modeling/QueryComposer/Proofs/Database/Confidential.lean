import QueryComposer.Proofs.Connection.Parallel
import QueryComposer.Proofs.Database.Operation

namespace QueryComposer.Database

/-!
# Values stay out of the log

Two runs of the same operations, whose arguments differ in bound values only, log the same events
and send the same texts, as long as the backends react alike. What a fault says may show values,
and so may differ; it is not logged.
-/

open Connection (
  Action AlikeAnswer AlikeError AlikeOutcome Cursor Exchanged Fault Link Params Parallel Result Rule
  Script Session sentTexts)
open Filter (SameLiteral SamePairs)
open Statement (SameAssignments SameRow SameRows SameText)

variable {σ τ α β : Type}

/-- Databases with one delimiter over alike links. -/
structure Alike
    (matching : σ → τ → Prop)
    (db : Database σ)
    (db' : Database τ) : Prop where
  link :
    db.link.Alike matching db'.link
  delimiter :
    db.delimiter = db'.delimiter

/-- A scalar that is not null is the only parameter. -/
theorem normalizeParams_scalar
    {value : Value}
    (isScalar : value.isScalar = true)
    (notNull : value ≠ .null) :
    normalizeParams value = .ok (some (.positional [value])) := by
  cases value with
  | null =>
      exact absurd rfl notNull
  | _ =>
      first
      | rfl
      | cases isScalar

theorem alike_refl (given : Option Params) : Option.Rel Params.Alike given given := by
  rcases given with _ | ⟨values | pairs⟩
  · exact .none
  · exact .some (.positional (List.forall₂_same.mpr fun value _ => .unchanged value))
  · exact .some (.named (List.forall₂_same.mpr fun pair _ => ⟨rfl, .unchanged pair.2⟩))

/-- Parameters of one shape are passed on alike. -/
theorem normalizeParams_same
    {params params' : Value}
    (same : SameParams params params') :
    Same (Option.Rel Params.Alike) (normalizeParams params) (normalizeParams params') := by
  cases same with
  | list exchanged =>
      exact .accepted (.some (.positional exchanged))
  | tuple exchanged =>
      exact .accepted (.some (.positional exchanged))
  | map exchanged =>
      exact .accepted (.some (.named exchanged))
  | one exchanged =>
      cases exchanged with
      | scalar isScalar isScalar' sameNull =>
          by_cases isNull : params = .null
          · rw [isNull, sameNull.mp isNull]
            exact .accepted .none
          · rw [normalizeParams_scalar isScalar isNull,
              normalizeParams_scalar isScalar' (isNull ∘ sameNull.mpr)]
            exact .accepted (.some (.positional (.cons (.scalar isScalar isScalar' sameNull) .nil)))
      | unchanged =>
          cases normalizeParams params with
          | error error =>
              exact .refused error
          | ok given =>
              exact .accepted (alike_refl given)

section Calls

variable
  {matching : σ → τ → Prop}
  {db : Database σ}
  {db' : Database τ}

theorem preparedOf_eq
    (alike : Alike matching db db')
    (statement : Value) :
    db.preparedOf statement = db'.preparedOf statement := by
  unfold preparedOf
  split <;> simp [Link.prepare_eq alike.link]

/-- Queries whose parameters have one shape. -/
theorem query_parallel
    (alike : Alike matching db db')
    (statement : Value)
    {params params' : Value}
    (same : SameParams params params') :
    Parallel matching Result.Alike (db.query statement params) (db'.query statement params') := by
  unfold query
  rw [preparedOf_eq alike]
  apply (Parallel.unchanged _).bind
  rintro prepared _ rfl
  apply (Parallel.lift (normalizeParams_same same)).bind
  intro given given' alikeGiven
  exact Link.execute_parallel alike.link prepared alikeGiven

/-- Statements of one text are executed for the same count of rows. -/
theorem executeComposed_parallel
    (alike : Alike matching db db')
    {statement statement' : Statement.Composed}
    (same : SameText Exchanged statement statement') :
    Parallel matching Eq (db.executeComposed statement) (db'.executeComposed statement') := by
  unfold executeComposed
  rw [same.sql, Link.prepare_eq alike.link]
  exact Link.executeCount_parallel alike.link _ same.params

/-- Selections whose filters have one shape. -/
theorem select_parallel
    (alike : Alike matching db db')
    (columns tables order : Value)
    {filters filters' : Value}
    (same : SameLiteral Exchanged filters filters') :
    Parallel matching Result.Alike
      (db.select columns tables filters order)
      (db'.select columns tables filters' order) := by
  unfold select
  rw [alike.delimiter]
  apply (Parallel.lift (Statement.select_same _ columns tables order same)).bind
  intro statement statement' sameText
  rw [sameText.sql, Link.prepare_eq alike.link]
  exact Link.execute_parallel alike.link _ (.some (.positional sameText.params))

/-- Updates of the same columns whose filters have one shape. -/
theorem update_parallel
    (alike : Alike matching db db')
    (table : Value)
    {values values' filters filters' : Value}
    (sameValues : SameAssignments Exchanged values values')
    (sameFilters : SameLiteral Exchanged filters filters') :
    Parallel matching Eq
      (db.update table values filters)
      (db'.update table values' filters') := by
  unfold update
  rw [alike.delimiter]
  apply (Parallel.lift (Statement.update_same _ table sameValues sameFilters)).bind
  intro statement statement' sameText
  exact executeComposed_parallel alike sameText

/-- Deletions whose filters have one shape. -/
theorem delete_parallel
    (alike : Alike matching db db')
    (table : Value)
    {filters filters' : Value}
    (same : SameLiteral Exchanged filters filters') :
    Parallel matching Eq (db.delete table filters) (db'.delete table filters') := by
  unfold delete
  rw [alike.delimiter]
  apply (Parallel.lift (Statement.delete_same _ table same)).bind
  intro statement statement' sameText
  exact executeComposed_parallel alike sameText

theorem arrive_parallel
    (move : Transaction.Move)
    (depth : Nat) :
    Parallel matching Eq (arrive move depth) (arrive move depth) := by
  unfold arrive
  refine Parallel.bind (Parallel.change fun sessions => { sessions with depth := rfl }) ?_
  intro _ _ _
  exact .emit _

/-- Moves are made side by side: they depend on the depth only. -/
theorem move_parallel
    (alike : Alike matching db db')
    (move : Transaction.Move) :
    Parallel matching Eq (db.move move) (db'.move move) := by
  unfold Database.move
  apply Parallel.get.bind
  intro session session' sessions
  rw [sessions.depth]
  dsimp only
  cases move.command? session'.depth with
  | none =>
      exact .throw (.refl _)
  | some command =>
      dsimp only
      split
      · apply (Link.issue_parallel alike.link command).bind
        rintro answer _ rfl
        apply (arrive_parallel move _).bind
        intro _ _ _
        exact .pure rfl
      · apply (arrive_parallel move _).bind
        intro _ _ _
        exact Link.issue_parallel alike.link command

/-- Blocks are left side by side, by a commit or by a rollback that passes the error on. -/
theorem leaveTransaction_parallel
    (alike : Alike matching db db')
    {failure failure' : Option Error}
    (failures : Option.Rel AlikeError failure failure') :
    Parallel matching Eq (db.leaveTransaction failure) (db'.leaveTransaction failure') := by
  unfold leaveTransaction
  cases failures with
  | none =>
      exact (move_parallel alike .commit).bind fun _ => .pure rfl
  | some errors =>
      exact (move_parallel alike .rollback).bind fun _ => .throw errors

/-- Blocks that run side by side do so in levels of their own. -/
theorem transaction_parallel
    (alike : Alike matching db db')
    {related : α → β → Prop}
    {block : Action σ α}
    {block' : Action τ β}
    (same : Parallel matching related block block') :
    Parallel matching related (db.transaction block) (db'.transaction block') := by
  unfold transaction
  apply (move_parallel alike .begin).bind
  intro _ _ _
  apply same.attempt_bind
  intro outcome outcome' outcomes
  cases outcomes with
  | succeeded results =>
      exact (leaveTransaction_parallel alike .none).bind fun _ => .pure results
  | failed errors =>
      exact (leaveTransaction_parallel alike (.some errors)).bind fun _ => .throw errors

/-- The update in place of an insertion has one text for rows of one shape, if there is one. -/
theorem fallback_same
    (alike : Alike matching db db')
    (table : Value)
    {row row' : Statement.Row}
    (sameRow : SameRow row row')
    (keys : List Value)
    {failure failure' : Connection.Failure}
    (failures : failure.Alike failure') :
    Same (Option.Rel (SameText Exchanged))
      (db.fallback table row keys failure)
      (db'.fallback table row' keys failure') := by
  unfold fallback
  rw [failures.constraintViolation, alike.delimiter]
  split
  · apply Statement.upsertUpdate_same
    rw [SamePairs, List.forall₂_map_left_iff, List.forall₂_map_right_iff]
    apply List.Forall₂.imp _ sameRow
    rintro ⟨name, value⟩ ⟨_, value'⟩ ⟨rfl, exchanged⟩
    exact ⟨rfl, exchanged⟩
  · exact .accepted .none

/-- Rows of one shape are inserted, or updated, side by side. -/
theorem insertOrUpdate_parallel
    (alike : Alike matching db db')
    (table : Value)
    (statement : Prepared)
    {params params' : List Value}
    (exchanged : List.Forall₂ Exchanged params params')
    {row row' : Statement.Row}
    (sameRow : SameRow row row')
    (keys : List Value) :
    Parallel matching Eq
      (db.insertOrUpdate table statement params row keys)
      (db'.insertOrUpdate table statement params' row' keys) := by
  have rollsBack :
      ∀ {error error'},
        AlikeError error error' →
        Parallel matching (Eq : Int → Int → Prop)
          (do
            let _ ← db.rollback
            throw error)
          (do
            let _ ← db'.rollback
            throw error') := by
    intro error error' errors
    exact (move_parallel alike .rollback).bind fun _ => .throw errors
  unfold insertOrUpdate
  apply (move_parallel alike .begin).bind
  intro _ _ _
  apply (Link.executeCount_parallel alike.link statement exchanged).attempt_bind
  intro outcome outcome' outcomes
  cases outcomes with
  | succeeded counts =>
      apply (move_parallel alike .commit).bind
      intro _ _ _
      exact .pure counts
  | @failed error error' errors =>
      cases errors with
      | execution failures =>
          apply (move_parallel alike .rollback).bind
          intro _ _ _
          apply (Parallel.lift (fallback_same alike table sameRow keys failures)).bind
          intro update update' updates
          cases updates with
          | none =>
              exact .throw (.execution failures)
          | some sameText =>
              apply (Parallel.emit _).bind
              intro _ _ _
              exact executeComposed_parallel alike sameText
      | fault faults =>
          exact rollsBack (.fault faults)
      | unchanged noFailure =>
          cases error with
          | execution failure =>
              exact absurd rfl (noFailure failure)
          | _ =>
              exact rollsBack (.refl _)

/-- The values of rows of one shape are exchanged, column by column. -/
theorem rowValues_exchanged
    (columns : List String)
    {row row' : Statement.Row}
    (sameRow : SameRow row row') :
    List.Forall₂ Exchanged (rowValues columns row) (rowValues columns row') := by
  rw [rowValues, rowValues, List.forall₂_map_left_iff, List.forall₂_map_right_iff,
    List.forall₂_same]
  intro column _
  have values := Association.get?_corresponds sameRow column
  generalize Association.get? row column = value at values
  generalize Association.get? row' column = value' at values
  cases values with
  | none =>
      exact .unchanged .null
  | some exchanged =>
      exact exchanged

/-- Rows of one shape are inserted side by side, one after the other. -/
theorem insertRows_parallel
    (alike : Alike matching db db')
    (table : Value)
    (statement : Prepared)
    (columns : List String)
    (keys : List Value)
    {rows rows' : List Statement.Row}
    (sameRows : List.Forall₂ SameRow rows rows') :
    Parallel matching Eq
      (db.insertRows table statement columns keys rows)
      (db'.insertRows table statement columns keys rows') := by
  induction sameRows with
  | nil =>
      exact .pure rfl
  | @cons row row' rest rest' sameRow _ inductionHypothesis =>
      have exchanged := rowValues_exchanged columns sameRow
      have goesOn :
          ∀ {first first' : Int},
            first = first' →
            Parallel matching Eq
              (do
                let others ← db.insertRows table statement columns keys rest
                return first + others)
              (do
                let others ← db'.insertRows table statement columns keys rest'
                return first' + others) := by
        rintro first _ rfl
        apply inductionHypothesis.bind
        rintro others _ rfl
        exact .pure rfl
      rw [insertRows, insertRows]
      dsimp only
      split
      · exact (Link.executeCount_parallel alike.link statement exchanged).bind goesOn
      · exact (insertOrUpdate_parallel alike table statement exchanged sameRow keys).bind goesOn

/-- Insertions of value sets of one shape. -/
theorem insert_parallel
    (alike : Alike matching db db')
    (table upsertKeys : Value)
    {values values' : Value}
    (same : SameRows values values') :
    Parallel matching Eq
      (db.insert table values upsertKeys)
      (db'.insert table values' upsertKeys) := by
  unfold insert
  apply (Parallel.lift (Statement.normalizeRows_same same)).bind
  intro rows rows' sameRows
  have sameColumns : firstColumns rows = firstColumns rows' := by
    cases sameRows with
    | nil =>
        rfl
    | cons first _ =>
        exact Statement.columns_eq first
  dsimp only
  rw [sameColumns, alike.delimiter, sameRows.length_eq]
  apply (Parallel.unchanged _).bind
  rintro sql _ rfl
  apply (Parallel.unchanged _).bind
  rintro keys _ rfl
  rw [Link.prepare_eq alike.link]
  apply (insertRows_parallel alike table _ _ keys sameRows).bind
  rintro affected _ rfl
  apply (Parallel.emit _).bind
  intro _ _ _
  exact .pure rfl

/-- Requests run side by side. -/
theorem request_parallel
    (alike : Alike matching db db')
    {request request' : Request}
    (same : SameRequest request request') :
    Parallel matching Eq (request.perform db) (request'.perform db') := by
  cases same with
  | query statement sameParams =>
      exact (query_parallel alike statement sameParams).bind fun _ => .pure rfl
  | select columns tables order sameFilters =>
      exact (select_parallel alike columns tables order sameFilters).bind fun _ => .pure rfl
  | insert table upsertKeys sameRows =>
      exact (insert_parallel alike table upsertKeys sameRows).bind fun _ => .pure rfl
  | update table sameValues sameFilters =>
      exact (update_parallel alike table sameValues sameFilters).bind fun _ => .pure rfl
  | delete table sameFilters =>
      exact (delete_parallel alike table sameFilters).bind fun _ => .pure rfl

mutual

/-- Operations run side by side. -/
theorem operation_parallel
    (alike : Alike matching db db')
    {operation operation' : Operation} :
    SameOperation operation operation' →
    Parallel matching Eq (operation.perform db) (operation'.perform db')
  | .request same => by
      rw [Operation.perform, Operation.perform]
      exact request_parallel alike same
  | .move move => by
      rw [Operation.perform, Operation.perform]
      exact (move_parallel alike move).bind fun _ => .pure rfl
  | .transaction same => by
      rw [Operation.perform, Operation.perform]
      exact transaction_parallel alike (operations_parallel alike same)
  | .attempt same => by
      rw [Operation.perform, Operation.perform]
      exact (operations_parallel alike same).attempt_bind fun _ => .pure rfl

/-- Operations that are done one after the other run side by side. -/
theorem operations_parallel
    (alike : Alike matching db db')
    {operations operations' : Operations} :
    SameOperations operations operations' →
    Parallel matching Eq (operations.perform db) (operations'.perform db')
  | .nil => by
      rw [Operations.perform]
      exact .pure rfl
  | .cons opening closing => by
      rw [Operations.perform, Operations.perform]
      exact (operation_parallel alike opening).bind fun _ => operations_parallel alike closing

end

/--
Values that are bound are never logged: runs of the same operations, whose arguments differ in them
only, log the same events with the same fields and send the same texts, and fail alike if they fail.
What a fault says may differ, and may show the values.
-/
theorem records_eq_of_same_operations
    (alike : Alike matching db db')
    {operations operations' : Operations}
    (same : SameOperations operations operations')
    {session : Session σ}
    {session' : Session τ}
    (sessions : Session.Alike matching session session') :
    let ended := (operations.perform db).outcome session
    let ended' := (operations'.perform db').outcome session'
    ended.2.records = ended'.2.records ∧
      sentTexts ended.2.calls = sentTexts ended'.2.calls ∧
      AlikeOutcome Eq ended.1 ended'.1 := by
  obtain ⟨outcomes, sessionsAfter⟩ := operations_parallel alike same session session' sessions
  exact ⟨sessionsAfter.records, Connection.sentTexts_eq sessionsAfter.calls, outcomes⟩

end Calls

section Scripts

/--
Rules for the same statements whose answers are alike. A rule that covers every text and is used
once answers one statement, so that scripts can go from statement to statement.
-/
inductive AlikeRule : Rule → Rule → Prop where
  | fault
      (start : String)
      (uses : Option Nat)
      {cause cause' : Fault}
      (alike : cause.Alike cause') :
      AlikeRule ⟨start, uses, .fault cause⟩ ⟨start, uses, .fault cause'⟩
  | cursor
      (start : String)
      (uses : Option Nat)
      {result result' : Cursor}
      (sameCount : result.rowCount = result'.rowCount) :
      AlikeRule ⟨start, uses, .cursor result⟩ ⟨start, uses, .cursor result'⟩

/-- Scripts of as many rules, each for the same statements and with alike answers. -/
def AlikeScripts (script script' : Script) : Prop :=
  List.Forall₂ AlikeRule script script'

/-- Alike scripts answer alike, and are alike afterwards. -/
theorem script_alike
    {script script' : Script}
    (rules : AlikeScripts script script')
    (sql : Value) :
    AlikeAnswer (script.execute sql).1 (script'.execute sql).1 ∧
      AlikeScripts (script.execute sql).2 (script'.execute sql).2 := by
  induction rules with
  | nil =>
      exact ⟨.executed rfl, .nil⟩
  | @cons rule rule' rest rest' first others inductionHypothesis =>
      have covers : rule.covers sql = rule'.covers sql := by
        cases first <;> rfl
      rw [Script.execute, Script.execute, covers]
      split
      · cases first with
        | fault start uses alike =>
            exact ⟨.failed alike, .cons (.fault start _ alike) others⟩
        | cursor start uses sameCount =>
            exact ⟨.executed sameCount, .cons (.cursor start _ sameCount) others⟩
      · exact ⟨inductionHypothesis.1, .cons first inductionHypothesis.2⟩

/-- Scripted backends react alike as long as their scripts are alike. -/
theorem scripted_reactsAlike :
    Connection.scripted.ReactsAlike AlikeScripts Connection.scripted where
  execute sql rules _ := script_alike rules sql
  closeCursor rules := ⟨.closed, rules⟩

/-- A backend that finds a duplicate of every row, and says which value it found. -/
def duplicatesOf (found : String) : Script :=
  let said := Value.text ("duplicate key value: " ++ found)
  [⟨"INSERT", none, .fault ⟨.integrityError, [said], none, some (.text "23505"), none⟩⟩]

/-- In a level of its own, a row is inserted or updated; then others are deleted by a value. -/
def replacement (key found : Value) : Operations :=
  .cons
    (.transaction
      (.cons
        (.request
          (.insert (.text "guestbook")
            (.map [(.text "id", key), (.text "content", found)])
            (.text "id")))
        .nil))
    (.cons (.request (.delete (.text "guestbook") (.map [(.text "content <>", found)]))) .nil)

/-- The replacement is run on a backend that says which value it found. -/
def replaced
    (key : Int)
    (found : String) :
    Except Error Unit × Session Script :=
  ((replacement (.int key) (.text found)).perform scriptedDatabase).outcome
    (Session.fresh (duplicatesOf found))

/-- A duplicate is logged in the same way whatever the values are and the backend says of them. -/
theorem records_eq_of_same_operations_duplicates :
    SameOperations
        (replacement (.int 1) (.text "hello"))
        (replacement (.int 7) (.text "secret")) ∧
      (replaced 1 "hello").2.records = (replaced 7 "secret").2.records ∧
      sentTexts (replaced 1 "hello").2.calls = sentTexts (replaced 7 "secret").2.calls ∧
      AlikeOutcome Eq (replaced 1 "hello").1 (replaced 7 "secret").1 ∧
      (replaced 1 "hello").2.records.length = 13 := by
  have keys : Exchanged (.int 1) (.int 7) := .scalar rfl rfl ⟨nofun, nofun⟩
  have texts : Exchanged (.text "hello") (.text "secret") := .scalar rfl rfl ⟨nofun, nofun⟩
  have same :
      SameOperations
        (replacement (.int 1) (.text "hello"))
        (replacement (.int 7) (.text "secret")) := by
    refine .cons (.transaction (.cons (.request (.insert _ _ ?_)) .nil))
      (.cons (.request (.delete _ ?_)) .nil)
    · exact .one (.map (.cons ⟨rfl, keys⟩ (.cons ⟨rfl, texts⟩ .nil)))
    · exact .map (.cons ⟨rfl, .scalar rfl rfl texts⟩ .nil)
  have alike : Alike AlikeScripts scriptedDatabase scriptedDatabase :=
    ⟨⟨rfl, rfl, scripted_reactsAlike⟩, rfl⟩
  have sessions :
      Session.Alike AlikeScripts
        (Session.fresh (duplicatesOf "hello"))
        (Session.fresh (duplicatesOf "secret")) :=
    ⟨.cons (.fault _ _ ⟨rfl, rfl, rfl⟩) .nil, rfl, .nil, rfl⟩
  have ended := records_eq_of_same_operations alike same sessions
  unfold replaced
  exact ⟨same, ended.1, ended.2.1, ended.2.2, by decide +kernel⟩

end Scripts

end QueryComposer.Database
