import QueryComposer.Connection.Link
import QueryComposer.Proofs.Log.Rendered

namespace QueryComposer.Connection

/-!
# What an action leaves alone

`Preserves` is a judgement on actions: whatever the backend answers, and whether the action
succeeds or fails, a view of the session is after it what it was before. Executing statements
leaves the depth alone.
-/

variable {σ α β γ : Type}

/-- The view of the session is the same before and after the action. -/
def Preserves
    (view : Session σ → γ)
    (action : Action σ α) : Prop :=
  ∀ session, view (action.outcome session).2 = view session

namespace Preserves

variable {view : Session σ → γ}

theorem pure (result : α) : Preserves view (Pure.pure result : Action σ α) :=
  fun _ => rfl

theorem throw (error : Error) : Preserves view (MonadExcept.throw error : Action σ α) :=
  fun _ => rfl

theorem lift (computed : Except Error α) : Preserves view (Action.lift computed : Action σ α) :=
  fun _ => rfl

theorem modify
    {change : Session σ → Session σ}
    (same : ∀ session, view (change session) = view session) :
    Preserves view (modify change : Action σ Unit) :=
  same

theorem record
    {call : Call}
    (same : ∀ session, view { session with calls := session.calls ++ [call] } = view session) :
    Preserves view (Action.record call : Action σ Unit) :=
  same

/-- The backend may act, if the view is not on it. -/
theorem onBackend
    (same : ∀ session backend, view { session with backend := backend } = view session)
    (step : σ → α × σ) :
    Preserves view (Action.onBackend step) :=
  fun session => same session _

/-- What both of two actions leave alone is left alone by one after the other. -/
theorem bind
    {first : Action σ α}
    {next : α → Action σ β}
    (opening : Preserves view first)
    (closing : ∀ result, Preserves view (next result)) :
    Preserves view (first >>= next) := by
  intro session
  have before := opening session
  rw [Action.outcome_bind]
  rcases made : first.outcome session with ⟨error | result, after⟩
  · rw [made] at before
    exact before
  · rw [made] at before
    exact (closing result after).trans before

theorem emit
    (same : ∀ session records, view { session with records := records } = view session)
    (event : Log.Event) :
    Preserves view (Action.emit event : Action σ Unit) :=
  (lift event.render?).bind fun _ => modify fun session => same session _

/-- What follows a recorded call leaves alone what the call has changed. -/
theorem record_bind
    {call : Call}
    {next : Unit → Action σ α}
    (closing : Preserves view (next ()))
    (session : Session σ) :
    view ((Action.record call >>= next).outcome session).2 =
      view { session with calls := session.calls ++ [call] } :=
  closing _

end Preserves

/-- An event whose fields are writable is logged, and only the log shows it. -/
theorem Action.emit_outcome
    {event : Log.Event}
    (writable : ∀ field ∈ event.fields, Log.Writable field.2)
    (session : Session σ) :
    ∃ records, (emit event).outcome session = (.ok (), { session with records := records }) := by
  obtain ⟨written, rendered⟩ := Log.Event.render?_of_writable writable
  refine ⟨session.records ++ [written], ?_⟩
  unfold emit
  rw [rendered]
  rfl

/-- A view on which the execution of a statement shows only by the call that executes it. -/
structure Aloof (view : Session σ → γ) : Prop where
  backend : ∀ session backend, view { session with backend := backend } = view session
  lastError : ∀ session lastError, view { session with lastError := lastError } = view session
  records : ∀ session records, view { session with records := records } = view session
  closing :
    ∀ session, view { session with calls := session.calls ++ [.closeCursor] } = view session

theorem aloof_depth : Aloof (Session.depth : Session σ → Nat) :=
  ⟨fun _ _ => rfl, fun _ _ => rfl, fun _ _ => rfl, fun _ => rfl⟩

namespace Link

variable {view : Session σ → γ} (link : Link σ)

/-- Closing a cursor is not seen. -/
theorem closeCursor_preserves (aloof : Aloof view) : Preserves view link.closeCursor := by
  apply (Preserves.record aloof.closing).bind
  intro _
  apply (Preserves.onBackend aloof.backend link.backend.closeCursor).bind
  intro answer
  cases answer with
  | error fault =>
      exact .throw _
  | ok _ =>
      exact .pure _

/-- Of executing a statement only the call is seen. -/
theorem execute_view
    (aloof : Aloof view)
    (statement : Prepared)
    (params : Option Params)
    (session : Session σ) :
    view ((link.execute statement params).outcome session).2 =
      view
        { session with
          calls := session.calls ++
            [.execute statement.driverSql (params.filter (·.count != 0))] } := by
  apply Preserves.record_bind
  apply (Preserves.onBackend aloof.backend _).bind
  intro answer
  cases answer with
  | ok cursor =>
      dsimp only
      apply (Preserves.modify fun session => aloof.lastError session _).bind
      intro _
      apply (Preserves.emit aloof.records _).bind
      intro _
      exact .pure _
  | error fault =>
      dsimp only
      split
      · apply (link.closeCursor_preserves aloof).bind
        intro _
        apply (Preserves.modify fun session => aloof.lastError session _).bind
        intro _
        apply (Preserves.emit aloof.records _).bind
        intro _
        exact .throw _
      · exact .throw _

/-- Of executing a statement for its count only the call is seen. -/
theorem executeCount_view
    (aloof : Aloof view)
    (statement : Prepared)
    (params : List Value)
    (session : Session σ) :
    view ((link.executeCount statement params).outcome session).2 =
      view
        { session with
          calls := session.calls ++
            [.execute statement.driverSql
              ((some (Params.positional params)).filter (·.count != 0))] } := by
  rw [← link.execute_view aloof statement (some (.positional params)) session]
  unfold executeCount
  rw [Action.outcome_bind]
  rcases (link.execute statement (some (.positional params))).outcome session with
    ⟨error | result, after⟩
  · rfl
  · have closes : Preserves view (do link.closeCursor; return result.cursor.rowCount) :=
      (link.closeCursor_preserves aloof).bind fun _ => .pure _
    exact closes after

/-- Executing a statement leaves the depth alone. -/
theorem execute_preserves_depth
    (statement : Prepared)
    (params : Option Params) :
    Preserves Session.depth (link.execute statement params) :=
  link.execute_view aloof_depth statement params

theorem executeCount_preserves_depth
    (statement : Prepared)
    (params : List Value) :
    Preserves Session.depth (link.executeCount statement params) :=
  link.executeCount_view aloof_depth statement params

/-- Issuing a command leaves the depth alone: only the moves change it. -/
theorem issue_preserves_depth (command : Transaction.Command) :
    Preserves Session.depth (link.issue command) := by
  rw [issue_eq]
  apply (link.executeCount_preserves_depth _ []).bind
  intro _
  exact .pure _

end Link

end QueryComposer.Connection
