import QueryComposer.Connection.Link
import QueryComposer.Proofs.Failure

namespace QueryComposer.Connection

/-!
# What an action raises

`Raises` is a judgement on actions: whatever the session and the backend, every error that the
action raises is allowed. A statement raises its own failure or a fault that is passed on, and a
misuse if its outcome cannot be logged.
-/

variable {σ α β : Type}

/-- Every error that the action can raise is allowed. -/
def Raises
    (allowed : Error → Prop)
    (action : Action σ α) : Prop :=
  ∀ session, FailsWith allowed (action.outcome session).1

namespace Raises

variable {allowed : Error → Prop}

/-- An action that always succeeds raises nothing. -/
theorem of_succeeds
    {action : Action σ α}
    (succeeds : ∀ session, ∃ result, (action.outcome session).1 = .ok result) :
    Raises allowed action := by
  intro session
  obtain ⟨result, made⟩ := succeeds session
  rw [made]
  exact .ok result

theorem pure (result : α) : Raises allowed (Pure.pure result : Action σ α) :=
  of_succeeds fun _ => ⟨result, rfl⟩

theorem throw
    {error : Error}
    (permitted : allowed error) :
    Raises allowed (MonadExcept.throw error : Action σ α) :=
  fun _ => .error permitted

theorem lift
    {computed : Except Error α}
    (fails : FailsWith allowed computed) :
    Raises allowed (Action.lift computed : Action σ α) :=
  fun _ => fails

theorem get : Raises allowed (MonadState.get : Action σ (Session σ)) :=
  of_succeeds fun session => ⟨session, rfl⟩

theorem modify (change : Session σ → Session σ) :
    Raises allowed (modify change : Action σ Unit) :=
  of_succeeds fun _ => ⟨(), rfl⟩

theorem record (call : Call) : Raises allowed (Action.record call : Action σ Unit) :=
  modify _

theorem onBackend (step : σ → α × σ) : Raises allowed (Action.onBackend step) :=
  of_succeeds fun _ => ⟨_, rfl⟩

/-- One action after the other raises what either of them raises. -/
theorem bind
    {first : Action σ α}
    {next : α → Action σ β}
    (opening : Raises allowed first)
    (closing : ∀ result, Raises allowed (next result)) :
    Raises allowed (first >>= next) := by
  intro session
  have before := opening session
  rw [Action.outcome_bind]
  rcases made : first.outcome session with ⟨cause | result, after⟩
  · rw [made] at before
    exact .error (before cause rfl)
  · exact closing result after

/-- What follows an attempt meets an error only if the attempted action raises it. -/
theorem attempt_bind
    {raised : Error → Prop}
    {action : Action σ α}
    {next : Except Error α → Action σ β}
    (raises : Raises raised action)
    (onResult : ∀ result, Raises allowed (next (.ok result)))
    (onError : ∀ error, raised error → Raises allowed (next (.error error))) :
    Raises allowed (action.attempt >>= next) := by
  intro session
  rw [Action.outcome_attempt_bind]
  cases made : (action.outcome session).1 with
  | error error =>
      exact onError error (raises session error made) _
  | ok result =>
      exact onResult result _

theorem mono
    {action : Action σ α}
    {wider : Error → Prop}
    (raises : Raises allowed action)
    (follows : ∀ error, allowed error → wider error) :
    Raises wider action :=
  fun session error failed => follows error (raises session error failed)

end Raises

/-- What a statement raises: its failure, a fault that is passed on, or a misuse of its texts. -/
inductive OfStatement : Error → Prop where
  | execution (failure : Failure) : OfStatement (.execution failure)
  | fault (cause : Fault) : OfStatement (.fault cause)
  | misuse (cause : Misuse) : OfStatement (.misuse cause)

namespace OfStatement

variable {error : Error}

/-- What a statement raises is about no argument. -/
theorem isArgument_eq_false (raised : OfStatement error) : error.isArgument = false := by
  cases raised <;> rfl

/-- What a statement raises is about no transaction. -/
theorem kind?_ne_transactionState
    (raised : OfStatement error) :
    error.kind? ≠ some .transactionState := by
  cases raised <;> simp [Error.kind?]

theorem of_isMisuse (misused : IsMisuse error) : OfStatement error := by
  obtain ⟨cause, rfl⟩ := misused
  exact .misuse cause

end OfStatement

/-- Logging raises only a misuse of what is logged. -/
theorem emit_raises (event : Log.Event) :
    Raises OfStatement (Action.emit event : Action σ Unit) := by
  have writes : Raises IsMisuse (Action.lift event.render? : Action σ Log.Record) :=
    .lift event.render?_failsWith
  refine (writes.mono fun _ => .of_isMisuse).bind fun written => ?_
  exact .modify _

namespace Link

variable (link : Link σ)

theorem closeCursor_raises : Raises OfStatement link.closeCursor := by
  refine (Raises.record .closeCursor).bind fun _ => ?_
  refine (Raises.onBackend link.backend.closeCursor).bind fun answer => ?_
  cases answer with
  | error fault =>
      exact .throw (.fault fault)
  | ok _ =>
      exact .pure _

theorem execute_raises
    (statement : Prepared)
    (params : Option Params) :
    Raises OfStatement (link.execute statement params) := by
  refine (Raises.record _).bind fun _ => ?_
  refine (Raises.onBackend _).bind fun answer => ?_
  cases answer with
  | ok cursor =>
      dsimp only
      refine (Raises.modify _).bind fun _ => ?_
      refine (emit_raises _).bind fun _ => ?_
      exact .pure _
  | error fault =>
      dsimp only
      split
      · refine link.closeCursor_raises.bind fun _ => ?_
        refine (Raises.modify _).bind fun _ => ?_
        refine (emit_raises _).bind fun _ => ?_
        exact .throw (.execution _)
      · exact .throw (.fault fault)

theorem executeCount_raises
    (statement : Prepared)
    (params : List Value) :
    Raises OfStatement (link.executeCount statement params) := by
  refine (link.execute_raises statement (some (.positional params))).bind fun result => ?_
  refine link.closeCursor_raises.bind fun _ => ?_
  exact .pure _

theorem issue_raises (command : Transaction.Command) :
    Raises OfStatement (link.issue command) := by
  rw [issue_eq]
  refine (link.executeCount_raises _ []).bind fun _ => ?_
  exact .pure _

end Link

end QueryComposer.Connection
