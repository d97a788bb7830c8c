import QueryComposer.Connection.Link

namespace QueryComposer.Connection

/-!
# The calls that an action sends

`Sends` is a judgement on actions: whatever the session and the backend, and whether the action
succeeds or fails, it records calls after those recorded before, and each of them is allowed.
-/

variable {σ α β : Type}

/-- Every call that the action sends is allowed. -/
def Sends
    (action : Action σ α)
    (allowed : Call → Prop) : Prop :=
  ∀ session, ∃ sent,
    (action.outcome session).2.calls = session.calls ++ sent ∧
      ∀ call ∈ sent, allowed call

namespace Sends

variable {allowed : Call → Prop}

/-- An action that leaves the recorded calls as they are sends none. -/
theorem of_calls_eq
    {action : Action σ α}
    (same : ∀ session, (action.outcome session).2.calls = session.calls) :
    Sends action allowed := by
  intro session
  exact ⟨[], by simp [same session], by simp⟩

theorem pure (result : α) : Sends (Pure.pure result : Action σ α) allowed :=
  of_calls_eq fun _ => rfl

theorem throw (error : Error) : Sends (MonadExcept.throw error : Action σ α) allowed :=
  of_calls_eq fun _ => rfl

theorem lift (result : Except Error α) : Sends (Action.lift result : Action σ α) allowed :=
  of_calls_eq fun _ => rfl

theorem get : Sends (MonadState.get : Action σ (Session σ)) allowed :=
  of_calls_eq fun _ => rfl

/-- Letting the backend act sends nothing; what is sent is recorded before. -/
theorem onBackend (step : σ → α × σ) : Sends (Action.onBackend step) allowed :=
  of_calls_eq fun _ => rfl

/-- Changing the session in another place sends nothing. -/
theorem modify
    {change : Session σ → Session σ}
    (same : ∀ session, (change session).calls = session.calls) :
    Sends (modify change : Action σ Unit) allowed :=
  of_calls_eq same

theorem record
    {call : Call}
    (permitted : allowed call) :
    Sends (Action.record call : Action σ Unit) allowed := by
  intro session
  refine ⟨[call], rfl, ?_⟩
  intro other member
  rw [List.mem_singleton.mp member]
  exact permitted

/-- Two actions send the calls of both. -/
theorem bind
    {first : Action σ α}
    {next : α → Action σ β}
    (opening : Sends first allowed)
    (closing : ∀ result, Sends (next result) allowed) :
    Sends (first >>= next) allowed := by
  intro session
  obtain ⟨sent, recorded, permitted⟩ := opening session
  rw [Action.outcome_bind]
  rcases made : first.outcome session with ⟨error | result, after⟩
  · rw [made] at recorded
    exact ⟨sent, recorded, permitted⟩
  · rw [made] at recorded
    obtain ⟨more, recordedMore, permittedMore⟩ := closing result after
    refine ⟨sent ++ more, ?_, ?_⟩
    · rw [recordedMore, recorded, List.append_assoc]
    · intro call member
      rcases List.mem_append.mp member with inFirst | inNext
      · exact permitted call inFirst
      · exact permittedMore call inNext

/-- What follows a computation is sent only with its result. -/
theorem lift_bind
    {computed : Except Error α}
    {next : α → Action σ β}
    (closing : ∀ result, computed = .ok result → Sends (next result) allowed) :
    Sends (Action.lift computed >>= next) allowed := by
  intro session
  rw [Action.outcome_bind, Action.outcome_lift]
  cases made : computed with
  | error error =>
      exact ⟨[], by simp, by simp⟩
  | ok result =>
      exact closing result made session

/-- An action sends what is allowed more widely too. -/
theorem mono
    {action : Action σ α}
    {wider : Call → Prop}
    (sends : Sends action allowed)
    (follows : ∀ call, allowed call → wider call) :
    Sends action wider := by
  intro session
  obtain ⟨sent, recorded, permitted⟩ := sends session
  exact ⟨sent, recorded, fun call member => follows call (permitted call member)⟩

theorem attempt
    {action : Action σ α}
    (sends : Sends action allowed) :
    Sends action.attempt allowed :=
  sends

theorem emit (event : Log.Event) : Sends (Action.emit event : Action σ Unit) allowed := by
  apply (lift event.render?).bind
  intro written
  exact modify fun _ => rfl

end Sends

namespace Link

variable {allowed : Call → Prop}

/-- Closing a cursor sends that call. -/
theorem closeCursor_sends
    (link : Link σ)
    (closes : allowed .closeCursor) :
    Sends link.closeCursor allowed := by
  apply (Sends.record closes).bind
  intro _
  apply (Sends.onBackend link.backend.closeCursor).bind
  intro answer
  cases answer with
  | error fault =>
      exact .throw _
  | ok _ =>
      exact .pure _

/-- Executing a statement sends it with its parameters, and may close the cursor. -/
theorem execute_sends
    (link : Link σ)
    (statement : Prepared)
    (params : Option Params)
    (executes : allowed (.execute statement.driverSql (params.filter (·.count != 0))))
    (closes : allowed .closeCursor) :
    Sends (link.execute statement params) allowed := by
  apply (Sends.record executes).bind
  intro _
  apply (Sends.onBackend _).bind
  intro answer
  cases answer with
  | ok cursor =>
      dsimp only
      refine Sends.bind (Sends.modify ?_) ?_
      · intro _
        rfl
      · intro _
        apply (Sends.emit _).bind
        intro _
        exact .pure _
  | error fault =>
      dsimp only
      split
      · apply (link.closeCursor_sends closes).bind
        intro _
        refine Sends.bind (Sends.modify ?_) ?_
        · intro _
          rfl
        · intro _
          apply (Sends.emit _).bind
          intro _
          exact .throw _
      · exact .throw _

/-- Executing a statement for its count sends it, and closes the cursor. -/
theorem executeCount_sends
    (link : Link σ)
    (statement : Prepared)
    (params : List Value)
    (executes :
      allowed (.execute statement.driverSql ((some (.positional params)).filter (·.count != 0))))
    (closes : allowed .closeCursor) :
    Sends (link.executeCount statement params) allowed := by
  apply (link.execute_sends statement (some (.positional params)) executes closes).bind
  intro result
  apply (link.closeCursor_sends closes).bind
  intro _
  exact .pure _

/-- Issuing a command sends its text without parameters, and closes the cursor. -/
theorem issue_sends
    (link : Link σ)
    (command : Transaction.Command)
    (executes :
      allowed (.execute (link.prepare (command.sql link.driver.beginStatement)).driverSql none))
    (closes : allowed .closeCursor) :
    Sends (link.issue command) allowed := by
  have performed :
      Sends (link.perform (command.sql link.driver.beginStatement)) allowed := by
    apply (link.execute_sends _ none executes closes).bind
    intro _
    exact link.closeCursor_sends closes
  apply performed.bind
  intro _
  exact .pure _

end Link

end QueryComposer.Connection
