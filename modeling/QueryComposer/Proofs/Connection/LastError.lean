import QueryComposer.Proofs.Connection.Execution
import QueryComposer.Proofs.Connection.Preserves
import QueryComposer.Proofs.Connection.Raises

namespace QueryComposer.Connection

/-!
# The error that is remembered

A session remembers what came of the last statement. `Clears` and `Remembers` are the two judgements
on what an action leaves remembered: no error if it returns, and its own failure if it raises one.
What follows a statement may spoil either of them, so that their rules for two actions in a row ask
for more than the judgement on one of them.
-/

variable {σ α β : Type}

/-- Whenever the action returns, no error is remembered. -/
def Clears (action : Action σ α) : Prop :=
  ∀ session result after,
    action.outcome session = (.ok result, after) →
    after.lastError = none

/-- Whenever the action raises the failure of a statement, it is remembered, unless it is spared. -/
def Remembers
    (spared : Failure → Session σ → Prop)
    (action : Action σ α) : Prop :=
  ∀ session failure after,
    action.outcome session = (.error (.execution failure), after) →
    after.lastError = some failure.info ∨ spared failure after

/-- The error is not the failure of a statement. -/
def NotOfExecution (error : Error) : Prop :=
  ∀ failure, error ≠ .execution failure

theorem not_of_execution_of_isMisuse
    {error : Error}
    (misused : IsMisuse error) :
    NotOfExecution error := by
  obtain ⟨cause, rfl⟩ := misused
  intro failure same
  cases same

/-- Logging raises no failure of a statement. -/
theorem emit_raises_notOfExecution (event : Log.Event) :
    Raises NotOfExecution (Action.emit event : Action σ Unit) := by
  refine Raises.bind (.lift ?_) fun written => .modify _
  intro error failed
  exact not_of_execution_of_isMisuse (event.render?_failsWith error failed)

namespace Clears

theorem throw (error : Error) : Clears (MonadExcept.throw error : Action σ α) := by
  intro session result after returned
  cases returned

/-- An action clears what is remembered if what it ends with does. -/
theorem bind
    {first : Action σ α}
    {next : α → Action σ β}
    (closing : ∀ result, Clears (next result)) :
    Clears (first >>= next) := by
  intro session result after returned
  rcases made : first.outcome session with ⟨error | between, middle⟩
  · rw [Action.outcome_bind_of_error made] at returned
    cases returned
  · rw [Action.outcome_bind_of_ok made] at returned
    exact closing between middle result after returned

/-- What is cleared stays cleared if what follows leaves it alone. -/
theorem bind_of_preserves
    {first : Action σ α}
    {next : α → Action σ β}
    (opening : Clears first)
    (preserves : ∀ result, Preserves Session.lastError (next result)) :
    Clears (first >>= next) := by
  intro session result after returned
  rcases made : first.outcome session with ⟨error | between, middle⟩
  · rw [Action.outcome_bind_of_error made] at returned
    cases returned
  · have cleared := opening session between middle made
    have kept := preserves between middle
    rw [Action.outcome_bind_of_ok made] at returned
    rw [returned, cleared] at kept
    exact kept

/-- Only a computation that succeeds is followed by anything. -/
theorem lift_bind
    {computed : Except Error α}
    {next : α → Action σ β}
    (closing : ∀ result, computed = .ok result → Clears (next result)) :
    Clears (Action.lift computed >>= next) := by
  intro session result after returned
  cases made : computed with
  | error error =>
      rw [made, Action.outcome_bind_of_error (Action.outcome_lift _ _)] at returned
      cases returned
  | ok between =>
      rw [made, Action.outcome_bind_of_ok (Action.outcome_lift _ _)] at returned
      exact closing between made session result after returned

end Clears

namespace Remembers

variable {spared : Failure → Session σ → Prop}

/-- An action that raises no failure of a statement has none to remember. -/
theorem of_raises
    {action : Action σ α}
    (raises : Raises NotOfExecution action) :
    Remembers spared action := by
  intro session failure after failed
  exact absurd rfl (raises session (.execution failure) (by rw [failed]) failure)

theorem pure (result : α) : Remembers spared (Pure.pure result : Action σ α) :=
  of_raises (.pure result)

theorem bind
    {first : Action σ α}
    {next : α → Action σ β}
    (opening : Remembers spared first)
    (closing : ∀ result, Remembers spared (next result)) :
    Remembers spared (first >>= next) := by
  intro session failure after failed
  rcases made : first.outcome session with ⟨error | between, middle⟩
  · rw [Action.outcome_bind_of_error made] at failed
    cases failed
    exact opening session failure after made
  · rw [Action.outcome_bind_of_ok made] at failed
    exact closing between middle failure after failed

/-- Only a computation that succeeds is followed by anything. -/
theorem lift_bind
    {computed : Except Error α}
    {next : α → Action σ β}
    (fails : FailsWith NotOfExecution computed)
    (closing : ∀ result, computed = .ok result → Remembers spared (next result)) :
    Remembers spared (Action.lift computed >>= next) := by
  intro session failure after failed
  cases made : computed with
  | error error =>
      rw [made, Action.outcome_bind_of_error (Action.outcome_lift _ _)] at failed
      cases failed
      exact absurd rfl (fails _ made failure)
  | ok result =>
      rw [made, Action.outcome_bind_of_ok (Action.outcome_lift _ _)] at failed
      exact closing result made session failure after failed

/-- What is attempted does not count, since what follows decides what is raised. -/
theorem attempt_bind
    {raised : Error → Prop}
    {action : Action σ α}
    {next : Except Error α → Action σ β}
    (raises : Raises raised action)
    (onResult : ∀ result, Remembers spared (next (.ok result)))
    (onError : ∀ error, raised error → Remembers spared (next (.error error))) :
    Remembers spared (action.attempt >>= next) := by
  intro session failure after failed
  rw [Action.outcome_attempt_bind] at failed
  rcases made : (action.outcome session).1 with error | result
  · rw [made] at failed
    exact onError error (raises session error made) _ failure after failed
  · rw [made] at failed
    exact onResult result _ failure after failed

theorem mono
    {action : Action σ α}
    {wider : Failure → Session σ → Prop}
    (remembers : Remembers spared action)
    (follows : ∀ failure after, spared failure after → wider failure after) :
    Remembers wider action :=
  fun session failure after failed =>
    (remembers session failure after failed).imp_right (follows failure after)

end Remembers

namespace Link

variable
  {link : Link σ}
  {statement : Prepared}
  {given : Option Params}
  {session after : Session σ}

/-- The error is no failure, or that of this statement, which the driver rejected. -/
def OwnFailure
    (link : Link σ)
    (statement : Prepared)
    (error : Error) : Prop :=
  ∀ failure,
    error = .execution failure →
    ∃ fault, fault.isDriverError = true ∧ failure = link.failure statement.sql fault

/-- A statement that returned a cursor is remembered as one without an error. -/
theorem Executes.lastError_of_ok
    {answer : Except Error Result}
    (executes : link.Executes statement given session answer after)
    {result : Result}
    (returned : answer = .ok result) :
    after.lastError = none := by
  cases executes with
  | returned =>
      rfl
  | unreported
  | rejected
  | unreportedRejection
  | unclosed
  | foreign =>
      cases returned

/-- A statement that failed is remembered with its failure, which is its own. -/
theorem Executes.lastError_of_failure
    {answer : Except Error Result}
    (executes : link.Executes statement given session answer after)
    {failure : Failure}
    (failed : answer = .error (.execution failure)) :
    after.lastError = some failure.info ∧ link.OwnFailure statement (.execution failure) := by
  cases executes with
  | @rejected fault _ _ _ _ own =>
      cases failed
      refine ⟨rfl, ?_⟩
      intro failure same
      cases same
      exact ⟨fault, own, rfl⟩
  | unreported _ unwritten
  | unreportedRejection _ _ _ unwritten =>
      cases failed
      obtain ⟨cause, misused⟩ := Log.Event.render?_failsWith _ _ unwritten
      cases misused
  | returned
  | unclosed
  | foreign =>
      cases failed

variable (link statement)

theorem execute_clears (params : Option Params) : Clears (link.execute statement params) := by
  intro session result after returned
  have executes := link.execute_executes statement params session
  rw [returned] at executes
  exact executes.lastError_of_ok rfl

theorem execute_remembers
    (spared : Failure → Session σ → Prop)
    (params : Option Params) :
    Remembers spared (link.execute statement params) := by
  intro session failure after failed
  have executes := link.execute_executes statement params session
  rw [failed] at executes
  exact .inl (executes.lastError_of_failure rfl).1

theorem execute_raises_own (params : Option Params) :
    Raises (link.OwnFailure statement) (link.execute statement params) := by
  intro session error failed failure isFailure
  have executes := link.execute_executes statement params session
  rw [failed, isFailure] at executes
  exact (executes.lastError_of_failure rfl).2 failure rfl

/-- Closing a cursor leaves alone what is remembered. -/
theorem closeCursor_preserves_lastError : Preserves Session.lastError link.closeCursor := by
  intro session
  rw [closeCursor_outcome]
  rfl

/-- A fault on closing a cursor is passed on. -/
theorem closeCursor_raises_notOfExecution : Raises NotOfExecution link.closeCursor := by
  intro session error failed failure isFailure
  rw [closeCursor_outcome, isFailure] at failed
  cases answer : (link.backend.closeCursor session.backend).1 with
  | error fault
  | ok _ =>
      rw [answer] at failed
      cases failed

theorem executeCount_clears (params : List Value) :
    Clears (link.executeCount statement params) := by
  refine (link.execute_clears statement _).bind_of_preserves fun result => ?_
  exact link.closeCursor_preserves_lastError.bind fun _ => .pure _

theorem executeCount_remembers
    (spared : Failure → Session σ → Prop)
    (params : List Value) :
    Remembers spared (link.executeCount statement params) := by
  refine (link.execute_remembers statement spared _).bind fun result => .of_raises ?_
  exact link.closeCursor_raises_notOfExecution.bind fun _ => .pure _

theorem executeCount_raises_own (params : List Value) :
    Raises (link.OwnFailure statement) (link.executeCount statement params) := by
  refine (link.execute_raises_own statement _).bind fun result => ?_
  refine Raises.bind (fun session error failed failure isFailure => ?_) fun _ => .pure _
  exact absurd isFailure (link.closeCursor_raises_notOfExecution session error failed failure)

theorem issue_clears (command : Transaction.Command) : Clears (link.issue command) := by
  rw [issue_eq]
  exact (link.executeCount_clears _ []).bind_of_preserves fun _ => .pure true

theorem issue_remembers
    (spared : Failure → Session σ → Prop)
    (command : Transaction.Command) :
    Remembers spared (link.issue command) := by
  rw [issue_eq]
  exact (link.executeCount_remembers _ spared []).bind fun _ => .pure true

end Link

end QueryComposer.Connection
