import QueryComposer.Connection.Backend
import QueryComposer.Driver.Entry
import QueryComposer.Error.Basic
import QueryComposer.Log.Event

namespace QueryComposer.Connection

/-!
# Sessions

A session is the state of an open connection: the state of its backend, the depth of nested
transactions, what is known of the last failed statement, all calls that went to the connection,
and all that was logged. An action on a session may fail; what it did before stays done.

`Link.execute` is the only way in which statements reach the backend.
-/

/-- A call to a connection. -/
inductive Call where
  | connect (module : String) (keywords : List (String × Value))
  | autocommit (way : Autocommit)
  | execute (sql : Value) (params : Option Params)
  | closeCursor
  | close
  deriving Repr

/-- The state of an open connection. -/
structure Session (σ : Type) where
  backend : σ
  depth : Nat
  lastError : Option ErrorInfo
  calls : List Call
  records : List Log.Record

namespace Session

/-- A session in which nothing has happened. -/
def fresh
    {σ : Type}
    (backend : σ) :
    Session σ :=
  ⟨backend, 0, none, [], []⟩

end Session

/-- An action on a session. -/
abbrev Action (σ α : Type) :=
  ExceptT Error (StateM (Session σ)) α

namespace Action

variable {σ α β : Type}

/-- An action that only computes. -/
def lift (result : Except Error α) : Action σ α :=
  ExceptT.mk (pure result)

/-- The outcome of an action, as a result that is no failure of its own. -/
def attempt (action : Action σ α) : Action σ (Except Error α) :=
  ExceptT.mk (do return .ok (← action.run))

/-- Remember a call to the connection. -/
def record (call : Call) : Action σ Unit :=
  modify fun session => { session with calls := session.calls ++ [call] }

/-- Log an event. -/
def emit (event : Log.Event) : Action σ Unit := do
  let written ← lift event.render?
  modify fun session => { session with records := session.records ++ [written] }

/-- Let the backend act. -/
def onBackend (step : σ → α × σ) : Action σ α :=
  modifyGet fun session =>
    let (answer, backend) := step session.backend
    (answer, { session with backend := backend })

/-- The outcome of an action and the session after it, given the session before. -/
def outcome
    (action : Action σ α)
    (session : Session σ) :
    Except Error α × Session σ :=
  action.run.run session

/-- A result leaves the session as it is. -/
@[simp] theorem outcome_pure
    (result : α)
    (session : Session σ) :
    (pure result : Action σ α).outcome session = (.ok result, session) :=
  rfl

/-- An error leaves the session as it is. -/
@[simp] theorem outcome_throw
    (error : Error)
    (session : Session σ) :
    (throw error : Action σ α).outcome session = (.error error, session) :=
  rfl

/-- A computation leaves the session as it is. -/
@[simp] theorem outcome_lift
    (result : Except Error α)
    (session : Session σ) :
    (lift result : Action σ α).outcome session = (result, session) :=
  rfl

/-- An attempt has the effect of its action and always a result. -/
@[simp] theorem outcome_attempt
    (action : Action σ α)
    (session : Session σ) :
    action.attempt.outcome session =
      (.ok (action.outcome session).1, (action.outcome session).2) :=
  rfl

/-- What follows an action starts from the session after it, and is left out after an error. -/
theorem outcome_bind
    (first : Action σ α)
    (next : α → Action σ β)
    (session : Session σ) :
    (first >>= next).outcome session =
      match first.outcome session with
      | (.ok result, after) => (next result).outcome after
      | (.error error, after) => (.error error, after) := by
  simp only [outcome, ExceptT.run_bind, StateT.run_bind]
  rcases first.run.run session with ⟨_ | _, _⟩ <;> rfl

/-- After an action that succeeds, what follows it starts from the session after it. -/
theorem outcome_bind_of_ok
    {first : Action σ α}
    {result : α}
    {session after : Session σ}
    (succeeded : first.outcome session = (.ok result, after))
    (next : α → Action σ β) :
    (first >>= next).outcome session = (next result).outcome after := by
  rw [outcome_bind, succeeded]

/-- After an action that fails, nothing follows. -/
theorem outcome_bind_of_error
    {first : Action σ α}
    {error : Error}
    {session after : Session σ}
    (failed : first.outcome session = (.error error, after))
    (next : α → Action σ β) :
    (first >>= next).outcome session = (.error error, after) := by
  rw [outcome_bind, failed]

/-- What follows an attempt is always done, given what came of the action. -/
theorem outcome_attempt_bind
    (action : Action σ α)
    (next : Except Error α → Action σ β)
    (session : Session σ) :
    (action.attempt >>= next).outcome session =
      (next (action.outcome session).1).outcome (action.outcome session).2 := by
  rw [outcome_bind, outcome_attempt]

end Action

end QueryComposer.Connection
