import QueryComposer.Proofs.Binding.Related
import QueryComposer.Proofs.Connection.Alike

namespace QueryComposer.Connection

/-!
# Two sessions side by side

`Parallel` is a judgement on two actions: from alike sessions they come to alike outcomes and to
alike sessions. There is one rule for each way in which an action is put together. Statements that
differ in the values that they bind are executed side by side on backends that react alike.
-/

/-- From alike sessions, the actions come to alike outcomes and to alike sessions. -/
def Parallel
    {σ τ α β : Type}
    (matching : σ → τ → Prop)
    (related : α → β → Prop)
    (action : Action σ α)
    (action' : Action τ β) : Prop :=
  ∀ session session',
    Session.Alike matching session session' →
    AlikeOutcome related (action.outcome session).1 (action'.outcome session').1 ∧
      Session.Alike matching (action.outcome session).2 (action'.outcome session').2

namespace Parallel

variable
  {σ τ α β γ δ : Type}
  {matching : σ → τ → Prop}
  {related : α → β → Prop}
  {relatedNext : γ → δ → Prop}

theorem pure
    {result : α}
    {result' : β}
    (results : related result result') :
    Parallel matching related (Pure.pure result) (Pure.pure result') := by
  intro session session' alike
  exact ⟨.succeeded results, alike⟩

theorem throw
    {error error' : Error}
    (errors : AlikeError error error') :
    Parallel matching related
      (MonadExcept.throw error : Action σ α)
      (MonadExcept.throw error' : Action τ β) := by
  intro session session' alike
  exact ⟨.failed errors, alike⟩

theorem lift
    {computed : Except Error α}
    {computed' : Except Error β}
    (same : Same related computed computed') :
    Parallel matching related (Action.lift computed) (Action.lift computed') := by
  intro session session' alike
  refine ⟨?_, alike⟩
  cases same with
  | refused error =>
      exact .failed (.refl error)
  | accepted results =>
      exact .succeeded results

/-- A computation that is not about the values is the same in both sessions. -/
theorem unchanged (computed : Except Error α) :
    Parallel matching Eq (Action.lift computed) (Action.lift computed) :=
  lift (.refl computed)

theorem get :
    Parallel matching (Session.Alike matching)
      (MonadState.get : Action σ (Session σ))
      (MonadState.get : Action τ (Session τ)) := by
  intro session session' alike
  exact ⟨.succeeded alike, alike⟩

theorem change
    {step : Session σ → Session σ}
    {step' : Session τ → Session τ}
    (changed :
      ∀ {session session'},
        Session.Alike matching session session' →
        Session.Alike matching (step session) (step' session')) :
    Parallel matching Eq
      (modify step : Action σ Unit)
      (modify step' : Action τ Unit) := by
  intro session session' alike
  exact ⟨.succeeded rfl, changed alike⟩

/-- What is remembered of the last failure may differ. -/
theorem remember (lastError lastError' : Option ErrorInfo) :
    Parallel matching Eq
      (modify fun session => { session with lastError := lastError } : Action σ Unit)
      (modify fun session => { session with lastError := lastError' } : Action τ Unit) :=
  change fun alike => { alike with }

/-- Alike calls are remembered alike. -/
theorem record
    {call call' : Call}
    (calls : call.Alike call') :
    Parallel matching Eq
      (Action.record call : Action σ Unit)
      (Action.record call' : Action τ Unit) :=
  change fun alike =>
    { alike with calls := List.rel_append alike.calls (.cons calls .nil) }

/-- Backends act alike if their answers are related and their states match on. -/
theorem onBackend
    {step : σ → α × σ}
    {step' : τ → β × τ}
    (reacts :
      ∀ {state state'},
        matching state state' →
        related (step state).1 (step' state').1 ∧ matching (step state).2 (step' state').2) :
    Parallel matching related (Action.onBackend step) (Action.onBackend step') := by
  intro session session' alike
  obtain ⟨answers, states⟩ := reacts alike.backend
  exact ⟨.succeeded answers, { alike with backend := states }⟩

/-- Parallel actions can be followed by parallel ones. -/
theorem bind
    {first : Action σ α}
    {first' : Action τ β}
    {next : α → Action σ γ}
    {next' : β → Action τ δ}
    (opening : Parallel matching related first first')
    (closing :
      ∀ {result result'},
        related result result' →
        Parallel matching relatedNext (next result) (next' result')) :
    Parallel matching relatedNext (first >>= next) (first' >>= next') := by
  intro session session' alike
  obtain ⟨outcome, alikeAfter⟩ := opening session session' alike
  rw [Action.outcome_bind, Action.outcome_bind]
  rcases made : first.outcome session with ⟨answer, after⟩
  rcases made' : first'.outcome session' with ⟨answer', after'⟩
  rw [made, made'] at outcome alikeAfter
  cases outcome with
  | failed errors =>
      exact ⟨.failed errors, alikeAfter⟩
  | succeeded results =>
      exact closing results after after' alikeAfter

/-- What is done after an attempt may depend on what came of it. -/
theorem attempt_bind
    {action : Action σ α}
    {action' : Action τ β}
    {next : Except Error α → Action σ γ}
    {next' : Except Error β → Action τ δ}
    (attempted : Parallel matching related action action')
    (closing :
      ∀ {outcome outcome'},
        AlikeOutcome related outcome outcome' →
        Parallel matching relatedNext (next outcome) (next' outcome')) :
    Parallel matching relatedNext (action.attempt >>= next) (action'.attempt >>= next') := by
  intro session session' alike
  obtain ⟨outcome, alikeAfter⟩ := attempted session session' alike
  rw [Action.outcome_attempt_bind, Action.outcome_attempt_bind]
  exact closing outcome _ _ alikeAfter

/-- An event is logged in both sessions, or in neither. -/
theorem emit (event : Log.Event) :
    Parallel matching Eq
      (Action.emit event : Action σ Unit)
      (Action.emit event : Action τ Unit) := by
  apply (unchanged event.render?).bind
  rintro written _ rfl
  exact change fun alike => { alike with records := by rw [alike.records] }

end Parallel

/-- Links to one driver whose backends react alike. -/
structure Link.Alike
    {σ τ : Type}
    (matching : σ → τ → Prop)
    (link : Link σ)
    (link' : Link τ) : Prop where
  driver :
    link.driver = link'.driver
  knowsIntegrity :
    link.knowsIntegrity = link'.knowsIntegrity
  backend :
    link.backend.ReactsAlike matching link'.backend

/-- Results of one statement that have affected as many rows. -/
structure Result.Alike (result result' : Result) : Prop where
  statement :
    result.statement = result'.statement
  rowCount :
    result.cursor.rowCount = result'.cursor.rowCount

/-- Alike parameters are as many. -/
theorem Params.Alike.count_eq
    {params params' : Params}
    (alike : params.Alike params') :
    params.count = params'.count := by
  cases alike with
  | positional exchanged =>
      exact exchanged.length_eq
  | named exchanged =>
      exact exchanged.length_eq

/-- Alike parameters are both passed on, or neither is. -/
theorem alike_given
    {params params' : Option Params}
    (alike : Option.Rel Params.Alike params params') :
    Option.Rel Params.Alike
      (params.filter (·.count != 0))
      (params'.filter (·.count != 0)) := by
  cases alike with
  | none =>
      exact .none
  | some same =>
      rw [Option.filter_some, Option.filter_some, same.count_eq]
      split
      · exact .some same
      · exact .none

namespace Link

variable
  {σ τ : Type}
  {matching : σ → τ → Prop}
  {link : Link σ}
  {link' : Link τ}

/-- Cursors are closed side by side. -/
theorem closeCursor_parallel (alike : link.Alike matching link') :
    Parallel matching Eq link.closeCursor link'.closeCursor := by
  unfold closeCursor
  apply (Parallel.record (.same _)).bind
  intro _ _ _
  apply (Parallel.onBackend alike.backend.closeCursor).bind
  intro answer answer' answers
  cases answers with
  | closed =>
      exact .pure rfl
  | failed faults =>
      exact .throw (.fault faults)

/-- The failures of a statement are alike if the faults are. -/
theorem failure_alike
    (alike : link.Alike matching link')
    (sql : Value)
    {fault fault' : Fault}
    (faults : fault.Alike fault') :
    (link.failure sql fault).Alike (link'.failure sql fault') where
  driver := by
    rw [failure, failure, alike.driver]
  sql := rfl
  fault := faults
  constraintViolation := by
    simp only [failure, isConstraintViolation, alike.knowsIntegrity, faults.faultClass]

/-- Alike failures are logged by the same event. -/
theorem failedEvent_eq
    {failure failure' : Failure}
    (alike : failure.Alike failure') :
    failedEvent failure = failedEvent failure' := by
  simp only [failedEvent, alike.driver, alike.sql, alike.constraintViolation,
    alike.fault.faultClass, alike.fault.state, alike.fault.code]

/-- Alike parameters are counted by the same event. -/
theorem executedEvent_eq
    (alike : link.Alike matching link')
    (sql : Value)
    {params params' : Option Params}
    (same : Option.Rel Params.Alike params params')
    (rowCount : Int) :
    link.executedEvent sql params rowCount = link'.executedEvent sql params' rowCount := by
  have counted : params.map Params.count = params'.map Params.count := by
    cases same with
    | none =>
        rfl
    | some same =>
        rw [Option.map_some, Option.map_some, same.count_eq]
  rw [executedEvent, executedEvent, alike.driver, counted]

/-- Statements are executed side by side if their parameters are alike. -/
theorem execute_parallel
    (alike : link.Alike matching link')
    (statement : Prepared)
    {params params' : Option Params}
    (same : Option.Rel Params.Alike params params') :
    Parallel matching Result.Alike
      (link.execute statement params)
      (link'.execute statement params') := by
  have given := alike_given same
  unfold execute
  apply (Parallel.record (.execute statement.driverSql given)).bind
  intro _ _ _
  apply (Parallel.onBackend fun states =>
    alike.backend.execute statement.driverSql states given).bind
  intro answer answer' answers
  cases answers with
  | executed sameCount =>
      dsimp only
      rw [sameCount, executedEvent_eq alike statement.sql given]
      apply (Parallel.remember none none).bind
      intro _ _ _
      apply (Parallel.emit _).bind
      intro _ _ _
      exact .pure ⟨rfl, sameCount⟩
  | failed faults =>
      have failures := failure_alike alike statement.sql faults
      dsimp only
      rw [Fault.isDriverError, Fault.isDriverError, faults.faultClass, failedEvent_eq failures]
      split
      · apply (closeCursor_parallel alike).bind
        intro _ _ _
        apply (Parallel.remember _ _).bind
        intro _ _ _
        apply (Parallel.emit _).bind
        intro _ _ _
        exact .throw (.execution failures)
      · exact .throw (.fault faults)

/-- Statements are executed side by side for the same count of rows. -/
theorem executeCount_parallel
    (alike : link.Alike matching link')
    (statement : Prepared)
    {params params' : List Value}
    (exchanged : List.Forall₂ Exchanged params params') :
    Parallel matching Eq
      (link.executeCount statement params)
      (link'.executeCount statement params') := by
  apply (execute_parallel alike statement (.some (.positional exchanged))).bind
  intro result result' results
  apply (closeCursor_parallel alike).bind
  intro _ _ _
  exact .pure results.rowCount

/-- Texts are prepared alike. -/
theorem prepare_eq
    (alike : link.Alike matching link')
    (sql : String) :
    link.prepare sql = link'.prepare sql := by
  rw [prepare, prepare, alike.driver]

/-- Commands are issued side by side. -/
theorem issue_parallel
    (alike : link.Alike matching link')
    (command : Transaction.Command) :
    Parallel matching Eq (link.issue command) (link'.issue command) := by
  rw [issue_eq, issue_eq, prepare_eq alike, alike.driver]
  apply (executeCount_parallel alike _ .nil).bind
  intro _ _ _
  exact .pure rfl

end Link

end QueryComposer.Connection
