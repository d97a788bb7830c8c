import QueryComposer.Proofs.Connection.Cursors
import QueryComposer.Proofs.Database.Operation

namespace QueryComposer.Database

/-!
# Cursors of a call

Whatever modifies a database, returning or raising, has closed the cursors of all its statements;
a call that reads rows has to close its cursor only if it raises an error. The exception are
statements that come to a foreign fault: nothing closes their cursors.
-/

open Connection (Action Handled Script Session Settled Settles openCursors)

variable {σ α : Type}

section Settling

variable (db : Database σ)

/-- A move is a command and a change of the depth. -/
theorem move_settles (move : Transaction.Move) : Settles db.link.backend (db.move move) := by
  have arrives : ∀ depth, Settles db.link.backend (arrive move depth) := by
    intro depth
    refine Settles.bind ?_ fun _ => .emit _
    exact .modify (fun _ => rfl) (fun _ => rfl)
  refine db.move_closed (Settles db.link.backend) (fun next => Settles.get.bind next) (.throw _)
    (fun command depth => ?_) fun command depth => ?_
  · refine (db.link.issue_settles command).bind fun answer => ?_
    exact (arrives depth).bind fun _ => .pure answer
  · exact (arrives depth).bind fun _ => db.link.issue_settles command

theorem executeComposed_settles (statement : Statement.Composed) :
    Settles db.link.backend (db.executeComposed statement) :=
  db.link.executeCount_settles rfl statement.params

/-- An insertion settles its own cursors and those of the level and the update around it. -/
theorem insertOrUpdate_settles
    (table : Value)
    (sql : String)
    (params : List Value)
    (row : Statement.Row)
    (keys : List Value) :
    Settles db.link.backend
      (db.insertOrUpdate table (db.link.prepare sql) params row keys) := by
  refine (db.move_settles .begin).bind fun _ => ?_
  refine (db.link.executeCount_settles rfl params).attempt.bind fun inserted => ?_
  cases inserted with
  | ok count =>
      exact (db.move_settles .commit).bind fun _ => .pure count
  | error error =>
      cases error with
      | execution failure =>
          refine (db.move_settles .rollback).bind fun _ => ?_
          refine (Settles.lift _).bind fun found => ?_
          cases found with
          | none =>
              exact .throw _
          | some update =>
              exact (Settles.emit _).bind fun _ => db.executeComposed_settles update
      | _ =>
          exact (db.move_settles .rollback).bind fun _ => .throw _

theorem insertRows_settles
    (table : Value)
    (sql : String)
    (columns : List String)
    (keys : List Value)
    (rows : List Statement.Row) :
    Settles db.link.backend (db.insertRows table (db.link.prepare sql) columns keys rows) := by
  refine db.insertRows_closed (Settles db.link.backend) (.pure 0) (fun opening closing => ?_)
    (fun _ row _ => ?_) fun _ row _ => ?_
  · exact opening.bind fun _ => closing.bind fun _ => .pure _
  · exact db.link.executeCount_settles rfl _
  · exact db.insertOrUpdate_settles table sql _ row keys

theorem insert_settles (table values upsertKeys : Value) :
    Settles db.link.backend (db.insert table values upsertKeys) := by
  refine (Settles.lift _).bind fun rows => ?_
  refine (Settles.lift _).bind fun sql => ?_
  refine (Settles.lift _).bind fun keys => ?_
  refine (db.insertRows_settles table sql _ keys rows).bind fun affected => ?_
  exact (Settles.emit _).bind fun _ => .pure affected

theorem transaction_settles
    {block : Action σ α}
    (settles : Settles db.link.backend block) :
    Settles db.link.backend (db.transaction block) := by
  have leaves : ∀ failure, Settles db.link.backend (db.leaveTransaction failure) := by
    intro failure
    cases failure with
    | none =>
        exact (db.move_settles .commit).bind fun _ => .pure ()
    | some error =>
        exact (db.move_settles .rollback).bind fun _ => .throw error
  refine (db.move_settles .begin).bind fun _ => ?_
  refine settles.attempt.bind fun ended => ?_
  cases ended with
  | ok result =>
      exact (leaves none).bind fun _ => .pure result
  | error error =>
      exact (leaves (some error)).bind fun _ => .throw error

end Settling

namespace Request

/-- The call modifies rows; any other call reads them. -/
def modifies : Request → Bool
  | .query _ _
  | .select _ _ _ _ => false
  | .insert _ _ _
  | .update _ _ _
  | .delete _ _ => true

/-- The text of a statement that was prepared before can be logged; any other call. -/
def HasLoggableText : Request → Prop
  | .query (.prepared sql _) _ => Redaction.isLoggable sql = true
  | _ => True

theorem settles_of_modifies
    (db : Database σ)
    {request : Request}
    (modifies : request.modifies = true) :
    Settles db.link.backend (request.perform db) := by
  cases request with
  | query
  | select =>
      cases modifies
  | insert table values upsertKeys =>
      exact (db.insert_settles table values upsertKeys).bind fun _ => .pure ()
  | update table values filters =>
      refine Settles.bind ?_ fun _ => .pure ()
      exact (Settles.lift _).bind fun statement => db.executeComposed_settles statement
  | delete table filters =>
      refine Settles.bind ?_ fun _ => .pure ()
      exact (Settles.lift _).bind fun statement => db.executeComposed_settles statement

end Request

/-- An action after which the cursors are settled if it raised an error. -/
def SettlesRaising
    (db : Database σ)
    (action : Action σ α) : Prop :=
  ∀ session error after,
    action.outcome session = (.error error, after) →
    Settled db.link.backend session after

namespace SettlesRaising

variable {db : Database σ} {β : Type}

theorem of_settles
    {action : Action σ α}
    (settles : Settles db.link.backend action) :
    SettlesRaising db action := by
  intro session error after failed
  have settled := settles session
  rwa [failed] at settled

/-- A computation that raises has called nothing. -/
theorem lift_bind
    {computed : Except Error α}
    {next : α → Action σ β}
    (closing : ∀ result, computed = .ok result → SettlesRaising db (next result)) :
    SettlesRaising db (Action.lift computed >>= next) := by
  intro session error after failed
  cases made : computed with
  | error cause =>
      rw [made, Action.outcome_bind_of_error (Action.outcome_lift _ _)] at failed
      cases failed
      exact .unseen rfl rfl
  | ok result =>
      rw [made, Action.outcome_bind_of_ok (Action.outcome_lift _ _)] at failed
      exact closing result made session error after failed

/-- Dropping the result of an action raises nothing. -/
theorem ignore
    {action : Action σ α}
    (settles : SettlesRaising db action) :
    SettlesRaising db (do let _ ← action) := by
  intro session error after failed
  rcases made : action.outcome session with ⟨cause | result, between⟩
  · rw [Action.outcome_bind_of_error made] at failed
    cases failed
    exact settles session error after made
  · rw [Action.outcome_bind_of_ok made] at failed
    cases failed

theorem execute
    {statement : Prepared}
    (loggable : Redaction.isLoggable statement.sql = true)
    (params : Option Connection.Params) :
    SettlesRaising db (db.link.execute statement params) := by
  intro session error after failed
  have executes := db.link.execute_executes statement params session
  rw [failed] at executes
  exact Connection.Link.settled_of_raised loggable executes

end SettlesRaising

theorem Request.settles_raising
    (db : Database σ)
    {request : Request}
    (loggable : request.HasLoggableText) :
    SettlesRaising db (request.perform db) := by
  cases request with
  | query statement params =>
      refine SettlesRaising.ignore ?_
      refine SettlesRaising.lift_bind fun prepared is => ?_
      refine SettlesRaising.lift_bind fun given _ => ?_
      refine .execute ?_ given
      cases statement with
      | text sql =>
          cases is
          rfl
      | prepared sql driverSql =>
          cases is
          exact loggable
      | _ =>
          cases is
  | select columns tables filters order =>
      refine SettlesRaising.ignore ?_
      refine SettlesRaising.lift_bind fun statement _ => ?_
      exact .execute rfl _
  | insert table values upsertKeys =>
      exact .of_settles (Request.settles_of_modifies db rfl)
  | update table values filters =>
      exact .of_settles (Request.settles_of_modifies db rfl)
  | delete table filters =>
      exact .of_settles (Request.settles_of_modifies db rfl)

mutual

/-- Nothing in the operation reads rows. -/
def Operation.modifies : Operation → Bool
  | .request request => request.modifies
  | .move _ => true
  | .transaction block
  | .attempt block => block.modify

/-- Nothing in the block reads rows. -/
def Operations.modify : Operations → Bool
  | .nil => true
  | .cons first rest => first.modifies && rest.modify

end

mutual

theorem Operation.settles
    (db : Database σ) :
    ∀ operation : Operation,
      operation.modifies = true →
      Settles db.link.backend (operation.perform db)
  | .request request, modifies => by
      rw [Operation.perform]
      exact Request.settles_of_modifies db modifies
  | .move move, _ => by
      rw [Operation.perform]
      exact (db.move_settles move).bind fun _ => .pure ()
  | .transaction block, modifies => by
      rw [Operation.perform]
      exact db.transaction_settles (Operations.settle db block modifies)
  | .attempt block, modifies => by
      rw [Operation.perform]
      exact (Operations.settle db block modifies).attempt.bind fun _ => .pure ()

theorem Operations.settle
    (db : Database σ) :
    ∀ operations : Operations,
      operations.modify = true →
      Settles db.link.backend (operations.perform db)
  | .nil, _ => by
      rw [Operations.perform]
      exact .pure ()
  | .cons first rest, modify => by
      obtain ⟨modifies, modify⟩ := Bool.and_eq_true_iff.mp modify
      rw [Operations.perform]
      exact (Operation.settles db first modifies).bind fun _ => Operations.settle db rest modify

end

namespace Operation

/-- With this outcome, the operation hands no cursor to its caller. -/
def KeepsCursors
    (answer : Except Error Unit)
    (operation : Operation) : Prop :=
  operation.modifies = true ∨
    ∃ request error,
      operation = .request request ∧ request.HasLoggableText ∧ answer = .error error

/--
The cursors that an operation has opened and keeps are closed, each of them by the call after the
one that opened it, apart from one cursor for each foreign fault that the backend came to.
-/
theorem cursors_closed
    (db : Database σ)
    {operation : Operation}
    {session after : Session σ}
    {answer : Except Error Unit}
    (made : (operation.perform db).outcome session = (answer, after))
    (keeps : operation.KeepsCursors answer) :
    ∃ calls faults,
      after.calls = session.calls ++ calls ∧
        Handled db.link.backend session.backend calls faults after.backend ∧
        openCursors calls = faults.length ∧
        ∀ fault ∈ faults,
          fault.isDriverError = false ∧
            ∃ reached sql params,
              (db.link.backend.execute reached sql params).1 = .error fault := by
  have settled : Settled db.link.backend session after := by
    obtain modifies | ⟨request, error, isRequest, loggable, raised⟩ := keeps
    · have settled := operation.settles db modifies session
      rwa [made] at settled
    · rw [isRequest, Operation.perform, raised] at made
      exact request.settles_raising db loggable session error after made
  obtain ⟨calls, faults, recorded, handled⟩ := settled
  refine ⟨calls, faults, recorded, handled, handled.openCursors_eq, ?_⟩
  intro fault member
  exact handled.foreign_of_mem member

/-- A row in the way of an insertion costs four cursors, that of its update among them. -/
theorem cursors_closed_duplicate :
    let operation :=
      Operation.request (.insert (.text "guestbook")
        (.map [(.text "id", .int 1), (.text "content", .text "hello")]) (.text "id"))
    let session := Session.fresh duplicates
    (∀ answer, operation.KeepsCursors answer) ∧
      ∃ answer after,
        (operation.perform scriptedDatabase).outcome session = (answer, after) ∧
          ∃ calls faults,
            after.calls = session.calls ++ calls ∧
              Handled scriptedDatabase.link.backend session.backend calls faults after.backend ∧
              openCursors calls = faults.length ∧
              ∀ fault ∈ faults,
                fault.isDriverError = false ∧
                  ∃ reached sql params,
                    (scriptedDatabase.link.backend.execute reached sql params).1 =
                      .error fault := by
  intro operation session
  have keeps : ∀ answer, operation.KeepsCursors answer := fun _ => .inl rfl
  exact ⟨keeps, _, _, rfl, cursors_closed scriptedDatabase rfl (keeps _)⟩

/-- A backend that loses its connection while it deletes rows. -/
def losingConnection : Script :=
  [⟨"DELETE", none, .fault (.foreign "connection lost")⟩]

/-- A deletion that comes to a foreign fault leaves its cursor open. -/
theorem cursor_left_open :
    ¬ ∀ (σ : Type) (db : Database σ) (operation : Operation) (session after : Session σ)
        (answer : Except Error Unit),
          operation.modifies = true →
          (operation.perform db).outcome session = (answer, after) →
          openCursors after.calls = openCursors session.calls := by
  intro closes
  let operation := Operation.request (.delete (.text "g") (.map [(.text "id", .int 1)]))
  let session := Session.fresh losingConnection
  have leftOpen :
      openCursors ((operation.perform scriptedDatabase).outcome session).2.calls = 1 := by
    decide +kernel
  rcases made : (operation.perform scriptedDatabase).outcome session with ⟨answer, after⟩
  have closed := closes Script scriptedDatabase operation session after answer rfl made
  rw [made, closed] at leftOpen
  cases leftOpen

end Operation

end QueryComposer.Database
