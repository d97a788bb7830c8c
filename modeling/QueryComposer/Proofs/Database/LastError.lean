import QueryComposer.Proofs.Connection.LastError
import QueryComposer.Proofs.Database.Balanced
import QueryComposer.Proofs.Database.Conversation
import QueryComposer.Proofs.Database.Refusals

namespace QueryComposer.Database

/-!
# The error that is remembered after a call

A call that returns leaves no error remembered, and one that raises the failure of a statement
leaves that failure remembered. Only an insertion with key columns may lose its failure: after a
row was rejected, the level that it ran in is rolled back, and the success of the rollback is what
is remembered when the failure is raised again.
-/

open Connection (Action Clears Failure NotOfExecution Preserves Raises Remembers Script Session)
open Statement (Accepted)

variable {σ α β : Type}

theorem not_of_execution_of_composition
    {error : Error}
    (refused : OfComposition error) :
    NotOfExecution error := by
  intro failure same
  cases refused with
  | argument about =>
      rw [same] at about
      cases about
  | misuse =>
      cases same

/-- Nothing is remembered for the sake of composing a statement. -/
theorem remembers_compose
    {spared : Failure → Session σ → Prop}
    {computed : Except Error α}
    {next : α → Action σ β}
    (fails : FailsWith OfComposition computed)
    (closing : ∀ result, computed = .ok result → Remembers spared (next result)) :
    Remembers spared (Action.lift computed >>= next) :=
  .lift_bind (fun error failed => not_of_execution_of_composition (fails error failed)) closing

section Moves

variable (db : Database σ)

/-- Arriving at a depth leaves alone what is remembered. -/
theorem arrive_preserves_lastError
    (move : Transaction.Move)
    (depth : Nat) :
    Preserves Session.lastError (arrive move depth : Action σ Unit) := by
  intro session
  obtain ⟨records, arrived⟩ := arrive_outcome move depth session
  rw [arrived]

theorem move_clears (move : Transaction.Move) : Clears (db.move move) := by
  refine db.move_closed Clears (fun next => Clears.bind next) (.throw _)
    (fun command depth => ?_) fun command depth => ?_
  · refine (db.link.issue_clears command).bind_of_preserves fun answer => ?_
    exact (arrive_preserves_lastError move depth).bind fun _ => .pure answer
  · exact Clears.bind fun _ => db.link.issue_clears command

theorem move_remembers
    (spared : Failure → Session σ → Prop)
    (move : Transaction.Move) :
    Remembers spared (db.move move) := by
  have arrives : ∀ depth, Remembers spared (arrive move depth) := by
    intro depth session failure after failed
    obtain ⟨records, arrived⟩ := arrive_outcome move depth session
    rw [arrived] at failed
    cases failed
  refine db.move_closed (Remembers spared) (fun next => (Remembers.of_raises .get).bind next) ?_
    (fun command depth => ?_) fun command depth => ?_
  · exact .of_raises (.throw fun _ same => nomatch same)
  · refine (db.link.issue_remembers spared command).bind fun answer => ?_
    exact (arrives depth).bind fun _ => .pure answer
  · exact (arrives depth).bind fun _ => db.link.issue_remembers spared command

/-- The last statement undid the level that was opened at this depth, and no error came of it. -/
structure Undone
    (db : Database σ)
    (after : Session σ) : Prop where
  executed :
    (statements after).getLast? =
      some (.execute (db.link.prepare (undoing after.depth)).driverSql none)
  cleared : after.lastError = none

/-- A rollback that succeeds has undone a level. -/
theorem undone_of_rollback
    {session after : Session σ}
    {answer : Bool}
    (rolledBack : db.rollback.outcome session = (.ok answer, after)) :
    db.Undone after := by
  have cleared := db.move_clears .rollback session answer after rolledBack
  refine ⟨?_, cleared⟩
  cases here : session.depth with
  | zero =>
      have gets : (get : Action σ (Session σ)).outcome session = (.ok session, session) := rfl
      rw [rollback, Database.move, Action.outcome_bind_of_ok gets, here] at rolledBack
      cases rolledBack
  | succ depth =>
      obtain ⟨command, issues, text⟩ := exists_undoing db.link.driver.beginStatement depth
      rw [← here] at issues
      obtain ⟨records, left⟩ := db.leave_outcome (by decide) issues
      have stays := db.link.issue_preserves_depth command
        { session with depth := session.depth - 1, records := records }
      have sent := db.statements_of_move issues
      rw [← left, ← rollback, rolledBack] at stays
      rw [← rollback, rolledBack, text] at sent
      have arrived : after.depth = depth := by
        rw [stays]
        exact Nat.sub_eq_of_eq_add here
      rw [sent, arrived]
      exact List.getLast?_concat

end Moves

section Insertion

variable (db : Database σ) (table : Value) (sql : String) (keys : List Value)

/--
The driver rejected a row, no update takes its place, and undoing the level that the row ran in
was the last statement.
-/
structure Withdrawn
    (row : Statement.Row)
    (failure : Failure)
    (after : Session σ) : Prop where
  rejected :
    ∃ fault, fault.isDriverError = true ∧ failure = db.link.failure (.text sql) fault
  unreplaced : db.fallback table row keys failure = .ok none
  undone : db.Undone after

theorem insertOrUpdate_clears
    (params : List Value)
    (row : Statement.Row) :
    Clears (db.insertOrUpdate table (db.link.prepare sql) params row keys) := by
  refine Clears.bind fun _ => Clears.bind fun inserted => ?_
  cases inserted with
  | ok count =>
      exact (db.move_clears .commit).bind_of_preserves fun _ => .pure count
  | error error =>
      cases error with
      | execution failure =>
          refine Clears.bind fun _ => Clears.bind fun found => ?_
          cases found with
          | none =>
              exact .throw _
          | some update =>
              exact Clears.bind fun _ => db.link.executeCount_clears _ _
      | _ =>
          exact Clears.bind fun _ => .throw _

/-- A failure that is raised again after a rollback is that of a withdrawn row. -/
theorem insertOrUpdate_remembers
    (params : List Value)
    (row : Statement.Row) :
    Remembers (db.Withdrawn table sql keys row)
      (db.insertOrUpdate table (db.link.prepare sql) params row keys) := by
  refine (db.move_remembers _ .begin).bind fun _ => ?_
  refine .attempt_bind (db.link.executeCount_raises_own (db.link.prepare sql) params) ?_ ?_
  · intro count
    exact (db.move_remembers _ .commit).bind fun _ => .pure count
  · intro error own
    cases error with
    | execution failure =>
        obtain ⟨fault, rejects, isFailure⟩ := own failure rfl
        intro session raised after failed
        rcases made : db.rollback.outcome session with ⟨error | answer, between⟩
        · rw [Action.outcome_bind_of_error made] at failed
          cases failed
          exact db.move_remembers _ .rollback session raised after made
        · rw [Action.outcome_bind_of_ok made] at failed
          cases falls : db.fallback table row keys failure with
          | error error =>
              rw [falls] at failed
              cases failed
              have composed := db.fallback_failsWith table row keys failure _ falls
              exact absurd rfl (not_of_execution_of_composition composed raised)
          | ok found =>
              rw [falls, Action.outcome_bind_of_ok (Action.outcome_lift _ _)] at failed
              cases found with
              | none =>
                  cases failed
                  exact .inr ⟨⟨fault, rejects, isFailure⟩, falls, db.undone_of_rollback made⟩
              | some update =>
                  exact (Remembers.of_raises (Connection.emit_raises_notOfExecution _)).bind
                    (fun _ => db.link.executeCount_remembers _ _ _) between raised after failed
    | _ =>
        refine (db.move_remembers _ .rollback).bind fun _ => ?_
        exact .of_raises (.throw fun _ same => nomatch same)

/-- Inserting rows clears what is remembered, as there is at least one of them. -/
theorem insertRows_clears
    (columns : List String)
    {rows : List Statement.Row}
    (nonempty : rows ≠ []) :
    Clears (db.insertRows table (db.link.prepare sql) columns keys rows) := by
  induction rows with
  | nil =>
      exact absurd rfl nonempty
  | cons row rest inductionHypothesis =>
      have others :
          ∀ {first : Action σ Int},
            Clears first →
            Clears
              (do
                let count ← first
                let others ← db.insertRows table (db.link.prepare sql) columns keys rest
                return count + others) := by
        intro first clears
        cases rest with
        | nil =>
            refine clears.bind_of_preserves fun count => ?_
            exact (Preserves.pure (0 : Int)).bind fun _ => .pure _
        | cons second later =>
            refine Clears.bind fun count => ?_
            refine (inductionHypothesis (List.cons_ne_nil _ _)).bind_of_preserves fun _ => ?_
            exact .pure _
      rw [insertRows]
      split
      · exact others (db.link.executeCount_clears _ _)
      · exact others (db.insertOrUpdate_clears table sql keys _ row)

theorem insertRows_remembers
    (columns : List String)
    (rows : List Statement.Row) :
    Remembers
      (fun failure after =>
        keys ≠ [] ∧ ∃ row ∈ rows, db.Withdrawn table sql keys row failure after)
      (db.insertRows table (db.link.prepare sql) columns keys rows) := by
  refine db.insertRows_closed (Remembers _) (.pure 0) (fun opening closing => ?_)
    (fun _ row _ => ?_) fun keyed row member => ?_
  · exact opening.bind fun _ => closing.bind fun _ => .pure _
  · exact db.link.executeCount_remembers _ _ _
  · apply (db.insertOrUpdate_remembers table sql keys _ row).mono
    intro failure after withdrawn
    exact ⟨keyed, row, member, withdrawn⟩

end Insertion

namespace Request

/-- The request inserts rows with key columns, and one of its rows was withdrawn. -/
def Withdraws
    (db : Database σ)
    (request : Request)
    (failure : Failure)
    (after : Session σ) : Prop :=
  ∃ table values upsertKeys rows sql keys row,
    request = .insert table values upsertKeys ∧
      Accepted db.delimiter table values rows sql ∧
      keyColumns upsertKeys = .ok keys ∧
      keys ≠ [] ∧
      row ∈ rows ∧
      db.Withdrawn table sql keys row failure after

theorem Withdraws.cleared
    {db : Database σ}
    {request : Request}
    {failure : Failure}
    {after : Session σ}
    (withdraws : request.Withdraws db failure after) :
    after.lastError = none := by
  obtain ⟨_, _, _, _, _, _, _, _, _, _, _, _, withdrawn⟩ := withdraws
  exact withdrawn.undone.cleared

theorem perform_clears
    (db : Database σ)
    (request : Request) :
    Clears (request.perform db) := by
  have ignores : ∀ {α : Type} {action : Action σ α},
      Clears action → Clears (do let _ ← action) :=
    fun clears => clears.bind_of_preserves fun _ => .pure ()
  cases request with
  | query statement params =>
      refine ignores (Clears.bind fun prepared => Clears.bind fun given => ?_)
      exact db.link.execute_clears prepared given
  | select columns tables filters order =>
      refine ignores (Clears.bind fun statement => ?_)
      exact db.link.execute_clears _ _
  | update table values filters =>
      refine ignores (Clears.bind fun statement => ?_)
      exact db.link.executeCount_clears _ _
  | delete table filters =>
      refine ignores (Clears.bind fun statement => ?_)
      exact db.link.executeCount_clears _ _
  | insert table values upsertKeys =>
      refine ignores (Clears.lift_bind fun rows normalized => ?_)
      refine Clears.bind fun sql => Clears.bind fun keys => ?_
      have nonempty := Statement.ne_nil_of_normalizeRows normalized
      refine (db.insertRows_clears table sql keys _ nonempty).bind_of_preserves fun affected => ?_
      exact (Preserves.emit (fun _ _ => rfl) _).bind fun _ => .pure affected

theorem perform_remembers
    (db : Database σ)
    (request : Request) :
    Remembers (request.Withdraws db) (request.perform db) := by
  cases request with
  | query statement params =>
      refine Remembers.bind ?_ fun _ => .pure ()
      refine remembers_compose (db.preparedOf_failsWith statement) fun prepared _ => ?_
      refine remembers_compose (normalizeParams_failsWith params) fun given _ => ?_
      exact db.link.execute_remembers prepared _ given
  | select columns tables filters order =>
      refine Remembers.bind ?_ fun _ => .pure ()
      refine remembers_compose (Statement.select_failsWith _ _ _ _ _) fun statement _ => ?_
      exact db.link.execute_remembers _ _ _
  | update table values filters =>
      refine Remembers.bind ?_ fun _ => .pure ()
      refine remembers_compose (Statement.update_failsWith _ _ _ _) fun statement _ => ?_
      exact db.link.executeCount_remembers _ _ _
  | delete table filters =>
      refine Remembers.bind ?_ fun _ => .pure ()
      refine remembers_compose (Statement.delete_failsWith _ _ _) fun statement _ => ?_
      exact db.link.executeCount_remembers _ _ _
  | insert table values upsertKeys =>
      refine Remembers.bind ?_ fun _ => .pure ()
      refine remembers_compose (Statement.normalizeRows_failsWith values) fun rows normalized => ?_
      refine remembers_compose (Statement.insert_failsWith _ _ _) fun sql composed => ?_
      refine remembers_compose (keyColumns_failsWith upsertKeys) fun keys named => ?_
      refine Remembers.bind ?_ fun affected => .of_raises ?_
      · apply (db.insertRows_remembers table sql keys _ rows).mono
        rintro failure after ⟨keyed, row, member, withdrawn⟩
        exact ⟨table, values, upsertKeys, rows, sql, keys, row, rfl, ⟨normalized, composed⟩,
          named, keyed, member, withdrawn⟩
      · exact (Connection.emit_raises_notOfExecution _).bind fun _ => .pure affected

/--
After a call that returns no error is remembered. After one that raises the failure of a statement
it is that failure, unless the call is an insertion that has withdrawn the row that failed: then
the last statement is the rollback, and no error is remembered.
-/
theorem lastError_of_perform
    (db : Database σ)
    (request : Request)
    {session after : Session σ}
    {answer : Except Error Unit}
    (made : (request.perform db).outcome session = (answer, after)) :
    (answer = .ok () → after.lastError = none) ∧
      ∀ failure,
        answer = .error (.execution failure) →
        after.lastError = some failure.info ∨
          request.Withdraws db failure after ∧ after.lastError = none := by
  constructor
  · rintro rfl
    exact request.perform_clears db session () after made
  · rintro failure rfl
    exact (request.perform_remembers db session failure after made).imp_right
      fun withdraws => ⟨withdraws, withdraws.cleared⟩

/-- The failure of a statement that came of a call. -/
def failure? : Except Error Unit → Option Failure
  | .error (.execution failure) => some failure
  | _ => none

theorem eq_of_failure?_isSome
    {answer : Except Error Unit}
    (fails : (failure? answer).isSome = true) :
    ∃ failure, answer = .error (.execution failure) := by
  unfold failure? at fails
  split at fails
  · next failure =>
      exact ⟨failure, rfl⟩
  · cases fails

/-- A backend that has no room for another row. -/
def fullDisk : Script :=
  [⟨"INSERT", none,
    .fault ⟨.operationalError, [.text "disk full"], some (.text "53100"), none, none⟩⟩]

/-- An insertion without key columns fails inside of a level, and its failure is remembered. -/
theorem lastError_of_perform_unkeyed :
    let request :=
      Request.insert (.text "g") (.map [(.text "id", .int 1), (.text "content", .text "a")]) .null
    let session : Session Script := { Session.fresh fullDisk with depth := 1 }
    ∃ after failure,
      (request.perform scriptedDatabase).outcome session = (.error (.execution failure), after) ∧
        (after.lastError = some failure.info ∨
          request.Withdraws scriptedDatabase failure after ∧ after.lastError = none) := by
  intro request session
  have fails : (failure? ((request.perform scriptedDatabase).outcome session).1).isSome := by
    decide +kernel
  rcases made : (request.perform scriptedDatabase).outcome session with ⟨answer, after⟩
  rw [made] at fails
  obtain ⟨failure, rfl⟩ := eq_of_failure?_isSome fails
  exact ⟨after, failure, rfl, (lastError_of_perform scriptedDatabase request made).2 failure rfl⟩

/-- With key columns the same failure is forgotten before it is raised. -/
theorem failure_forgotten :
    ¬ ∀ (σ : Type) (db : Database σ) (request : Request) (session after : Session σ)
        (failure : Failure),
          (request.perform db).outcome session = (.error (.execution failure), after) →
          after.lastError = some failure.info := by
  intro remembers
  let request :=
    Request.insert (.text "g") (.map [(.text "id", .int 1), (.text "content", .text "a")])
      (.text "id")
  let session := Session.fresh fullDisk
  have fails : (failure? ((request.perform scriptedDatabase).outcome session).1).isSome := by
    decide +kernel
  have forgotten : ((request.perform scriptedDatabase).outcome session).2.lastError.isNone := by
    decide +kernel
  rcases made : (request.perform scriptedDatabase).outcome session with ⟨answer, after⟩
  rw [made] at fails forgotten
  obtain ⟨failure, rfl⟩ := eq_of_failure?_isSome fails
  rw [remembers Script scriptedDatabase request session after failure made] at forgotten
  cases forgotten

end Request

end QueryComposer.Database
