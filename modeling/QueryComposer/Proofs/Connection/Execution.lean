import QueryComposer.Connection.Link

namespace QueryComposer.Connection

/-!
# How the execution of a statement ends

`Executes` lists the ways in which the execution of a statement can end, with all that each of them
leaves in the session. The backend answers the statement, the answer is remembered and logged; on
the way a cursor may fail to close, and an event may be one that cannot be written.
-/

variable {σ : Type}

namespace Session

/-- The session after a call to which the backend has reacted. -/
def sent
    (session : Session σ)
    (call : Call)
    (backend : σ) :
    Session σ :=
  { session with backend := backend, calls := session.calls ++ [call] }

/-- The session after what came of a statement has been remembered. -/
def remembering
    (session : Session σ)
    (lastError : Option ErrorInfo) :
    Session σ :=
  { session with lastError := lastError }

/-- The session after something has been logged. -/
def logging
    (session : Session σ)
    (record : Log.Record) :
    Session σ :=
  { session with records := session.records ++ [record] }

end Session

namespace Action

/-- An event that can be written is logged, and any other leaves the session as it is. -/
theorem emit_outcome_eq
    (event : Log.Event)
    (session : Session σ) :
    (emit event : Action σ Unit).outcome session =
      match event.render? with
      | .ok record => (.ok (), session.logging record)
      | .error error => (.error error, session) := by
  unfold emit
  rw [outcome_bind, outcome_lift]
  cases event.render? <;> rfl

end Action

namespace Link

variable (link : Link σ)

/-- Closing a cursor is a call, whether it fails or not. -/
theorem closeCursor_outcome (session : Session σ) :
    link.closeCursor.outcome session =
      ((link.backend.closeCursor session.backend).1.mapError .fault,
        session.sent .closeCursor (link.backend.closeCursor session.backend).2) := by
  have answered :
      (do
          Action.record .closeCursor
          Action.onBackend link.backend.closeCursor :
        Action σ (Except Fault Unit)).outcome session =
        (.ok (link.backend.closeCursor session.backend).1,
          session.sent .closeCursor (link.backend.closeCursor session.backend).2) :=
    rfl
  unfold closeCursor
  rw [← bind_assoc, Action.outcome_bind_of_ok answered]
  cases (link.backend.closeCursor session.backend).1 <;> rfl

variable (statement : Prepared) (given : Option Params)

/-- The call that executes a statement, with its parameters if it has any. -/
def executeCall : Call :=
  .execute statement.driverSql given

/-- What comes of executing a statement with the given parameters, and the session after it. -/
inductive Executes
    (session : Session σ) :
    Except Error Result →
    Session σ →
    Prop where
  /-- The backend returned a cursor. -/
  | returned
      {cursor : Cursor}
      {backend : σ}
      {record : Log.Record}
      (answers :
        link.backend.execute session.backend statement.driverSql given = (.ok cursor, backend))
      (written :
        (link.executedEvent statement.sql given cursor.rowCount).render? = .ok record) :
      Executes session (.ok ⟨statement, cursor⟩)
        (((session.sent (executeCall statement given) backend).remembering none).logging record)
  /-- The backend returned a cursor, and its event cannot be written. -/
  | unreported
      {cursor : Cursor}
      {backend : σ}
      {error : Error}
      (answers :
        link.backend.execute session.backend statement.driverSql given = (.ok cursor, backend))
      (unwritten :
        (link.executedEvent statement.sql given cursor.rowCount).render? = .error error) :
      Executes session (.error error)
        ((session.sent (executeCall statement given) backend).remembering none)
  /-- The driver rejected the statement. -/
  | rejected
      {fault : Fault}
      {backend closed : σ}
      {record : Log.Record}
      (answers :
        link.backend.execute session.backend statement.driverSql given = (.error fault, backend))
      (own : fault.isDriverError = true)
      (closes : link.backend.closeCursor backend = (.ok (), closed))
      (written : (failedEvent (link.failure statement.sql fault)).render? = .ok record) :
      Executes session (.error (.execution (link.failure statement.sql fault)))
        ((((session.sent (executeCall statement given) backend).sent .closeCursor
          closed).remembering (some (link.failure statement.sql fault).info)).logging record)
  /-- The driver rejected the statement, and the event of its failure cannot be written. -/
  | unreportedRejection
      {fault : Fault}
      {backend closed : σ}
      {error : Error}
      (answers :
        link.backend.execute session.backend statement.driverSql given = (.error fault, backend))
      (own : fault.isDriverError = true)
      (closes : link.backend.closeCursor backend = (.ok (), closed))
      (unwritten : (failedEvent (link.failure statement.sql fault)).render? = .error error) :
      Executes session (.error error)
        (((session.sent (executeCall statement given) backend).sent .closeCursor
          closed).remembering (some (link.failure statement.sql fault).info))
  /-- The driver rejected the statement, and closing its cursor failed. -/
  | unclosed
      {fault cause : Fault}
      {backend closed : σ}
      (answers :
        link.backend.execute session.backend statement.driverSql given = (.error fault, backend))
      (own : fault.isDriverError = true)
      (closes : link.backend.closeCursor backend = (.error cause, closed)) :
      Executes session (.error (.fault cause))
        ((session.sent (executeCall statement given) backend).sent .closeCursor closed)
  /-- A foreign fault came out of the driver. -/
  | foreign
      {fault : Fault}
      {backend : σ}
      (answers :
        link.backend.execute session.backend statement.driverSql given = (.error fault, backend))
      (foreign : fault.isDriverError = false) :
      Executes session (.error (.fault fault))
        (session.sent (executeCall statement given) backend)

variable {link statement given}

/-- After a rejection its cursor is closed, and then the failure is remembered and logged. -/
theorem executes_of_rejection
    {session : Session σ}
    {fault : Fault}
    {backend : σ}
    (answers :
      link.backend.execute session.backend statement.driverSql given = (.error fault, backend))
    (own : fault.isDriverError = true) :
    let rejection : Action σ Result := do
      link.closeCursor
      let failure := link.failure statement.sql fault
      modify fun session => { session with lastError := some failure.info }
      Action.emit (failedEvent failure)
      throw (.execution failure)
    let sent := session.sent (executeCall statement given) backend
    link.Executes statement given session (rejection.outcome sent).1 (rejection.outcome sent).2 := by
  intro rejection sent
  have closing := link.closeCursor_outcome sent
  rcases closes : link.backend.closeCursor backend with ⟨cause | _, closed⟩
  · have failed : link.closeCursor.outcome sent =
        (.error (.fault cause), sent.sent .closeCursor closed) := by
      rw [closing]
      change ((link.backend.closeCursor backend).1.mapError _, sent.sent _
        (link.backend.closeCursor backend).2) = _
      rw [closes]
      rfl
    rw [Action.outcome_bind_of_error failed]
    exact .unclosed answers own closes
  · have succeeded : link.closeCursor.outcome sent =
        (.ok (), sent.sent .closeCursor closed) := by
      rw [closing]
      change ((link.backend.closeCursor backend).1.mapError _, sent.sent _
        (link.backend.closeCursor backend).2) = _
      rw [closes]
      rfl
    have remembered :
        (modify fun session =>
            { session with lastError := some (link.failure statement.sql fault).info } :
          Action σ Unit).outcome (sent.sent .closeCursor closed) =
        (.ok (), (sent.sent .closeCursor closed).remembering
          (some (link.failure statement.sql fault).info)) :=
      rfl
    rw [Action.outcome_bind_of_ok succeeded]
    dsimp only
    rw [Action.outcome_bind_of_ok remembered, Action.outcome_bind, Action.emit_outcome_eq]
    cases written : (failedEvent (link.failure statement.sql fault)).render? with
    | error error =>
        exact .unreportedRejection answers own closes written
    | ok record =>
        exact .rejected answers own closes written

/-- Executing a statement ends in one of these ways; parameters without values are left out. -/
theorem execute_executes
    (link : Link σ)
    (statement : Prepared)
    (params : Option Params)
    (session : Session σ) :
    Executes link statement (params.filter (·.count != 0)) session
      ((link.execute statement params).outcome session).1
      ((link.execute statement params).outcome session).2 := by
  let given := params.filter (·.count != 0)
  rcases answers : link.backend.execute session.backend statement.driverSql given with
    ⟨answer, backend⟩
  have sent :
      (do
          Action.record (.execute statement.driverSql given)
          Action.onBackend (link.backend.execute · statement.driverSql given) :
        Action σ (Except Fault Cursor)).outcome session =
        (.ok answer, session.sent (executeCall statement given) backend) := by
    change (Except.ok (link.backend.execute session.backend statement.driverSql given).1,
      session.sent _ (link.backend.execute session.backend statement.driverSql given).2) = _
    rw [answers]
    rfl
  unfold execute
  dsimp only
  rw [← bind_assoc, Action.outcome_bind_of_ok sent]
  cases answer with
  | ok cursor =>
      have remembered :
          (modify fun session => { session with lastError := none } :
            Action σ Unit).outcome (session.sent (executeCall statement given) backend) =
          (.ok (), (session.sent (executeCall statement given) backend).remembering none) :=
        rfl
      dsimp only
      rw [Action.outcome_bind_of_ok remembered, Action.outcome_bind, Action.emit_outcome_eq]
      cases written : (link.executedEvent statement.sql given cursor.rowCount).render? with
      | error error =>
          exact .unreported answers written
      | ok record =>
          exact .returned answers written
  | error fault =>
      dsimp only
      by_cases own : fault.isDriverError = true
      · rw [if_pos own]
        exact executes_of_rejection answers own
      · rw [if_neg own]
        exact .foreign answers (by simpa using own)

end Link

end QueryComposer.Connection
