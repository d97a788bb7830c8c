import QueryComposer.Proofs.Connection.Execution
import QueryComposer.Proofs.Log.Loggable
import QueryComposer.Proofs.Log.Rendered

namespace QueryComposer.Connection

/-!
# Cursors

The execution of a statement opens a cursor. `Handled` tells what became of the cursors of a list of
calls: each of them is closed by the very next call, apart from those whose statement came to a
foreign fault. `Settles` is the judgement that an action leaves behind no other open cursor, with
one rule for each of the combinators that actions are made of.
-/

variable {σ α β : Type}

/-- The number of cursors that were opened and not closed by the next call. -/
def openCursors : List Call → Nat
  | [] => 0
  | .execute _ _ :: .closeCursor :: rest => openCursors rest
  | .execute _ _ :: rest => openCursors rest + 1
  | _ :: rest => openCursors rest

/--
The backend is led from one state to another by calls that execute statements and close cursors,
and comes to these foreign faults.
-/
inductive Handled (backend : Backend σ) : σ → List Call → List Fault → σ → Prop where
  | nil (state : σ) :
      Handled backend state [] [] state
  /-- The statement is answered or rejected by the driver, and its cursor is closed. -/
  | closed
      {state executed settled last : σ}
      {sql : Value}
      {params : Option Params}
      {answer : Except Fault Cursor}
      {calls : List Call}
      {faults : List Fault}
      (answers : backend.execute state sql params = (answer, executed))
      (own : ∀ fault, answer = .error fault → fault.isDriverError = true)
      (closes : (backend.closeCursor executed).2 = settled)
      (rest : Handled backend settled calls faults last) :
      Handled backend state (.execute sql params :: .closeCursor :: calls) faults last
  /-- The statement comes to a foreign fault, and its cursor is left open. -/
  | abandoned
      {state executed last : σ}
      {sql : Value}
      {params : Option Params}
      {fault : Fault}
      {calls : List Call}
      {faults : List Fault}
      (answers : backend.execute state sql params = (.error fault, executed))
      (foreign : fault.isDriverError = false)
      (rest : Handled backend executed calls faults last) :
      Handled backend state (.execute sql params :: calls) (fault :: faults) last

namespace Handled

variable
  {backend : Backend σ}
  {state between last : σ}
  {calls late : List Call}
  {faults more : List Fault}

theorem append
    (opening : Handled backend state calls faults between)
    (closing : Handled backend between late more last) :
    Handled backend state (calls ++ late) (faults ++ more) last := by
  induction opening with
  | nil =>
      exact closing
  | closed answers own closes _ inductionHypothesis =>
      exact .closed answers own closes (inductionHypothesis closing)
  | abandoned answers foreign _ inductionHypothesis =>
      exact .abandoned answers foreign (inductionHypothesis closing)

/-- Exactly the cursors of statements that came to a foreign fault are left open. -/
theorem openCursors_eq (handled : Handled backend state calls faults last) :
    openCursors calls = faults.length := by
  induction handled with
  | nil =>
      rfl
  | closed _ _ _ _ inductionHypothesis =>
      exact inductionHypothesis
  | abandoned _ _ rest inductionHypothesis =>
      rw [List.length_cons, ← inductionHypothesis]
      -- The call after an abandoned cursor opens another one, so that it is no closing call.
      cases rest <;> rfl

/-- The faults are foreign ones that the backend came to. -/
theorem foreign_of_mem
    (handled : Handled backend state calls faults last)
    {fault : Fault}
    (member : fault ∈ faults) :
    fault.isDriverError = false ∧
      ∃ reached sql params, (backend.execute reached sql params).1 = .error fault := by
  induction handled with
  | nil =>
      cases member
  | closed _ _ _ _ inductionHypothesis =>
      exact inductionHypothesis member
  | abandoned answers foreign _ inductionHypothesis =>
      rcases List.mem_cons.mp member with isFirst | inRest
      · rw [isFirst]
        exact ⟨foreign, _, _, _, congrArg Prod.fst answers⟩
      · exact inductionHypothesis inRest

end Handled

/-- The session is led to another one by calls whose cursors are handled. -/
def Settled
    (backend : Backend σ)
    (session after : Session σ) : Prop :=
  ∃ calls faults,
    after.calls = session.calls ++ calls ∧
      Handled backend session.backend calls faults after.backend

namespace Settled

variable {backend : Backend σ} {session between after : Session σ}

/-- Nothing was called. -/
theorem unseen
    (sameCalls : after.calls = session.calls)
    (sameBackend : after.backend = session.backend) :
    Settled backend session after := by
  refine ⟨[], [], by rw [sameCalls, List.append_nil], ?_⟩
  rw [sameBackend]
  exact .nil _

theorem trans
    (opening : Settled backend session between)
    (closing : Settled backend between after) :
    Settled backend session after := by
  obtain ⟨calls, faults, recorded, handled⟩ := opening
  obtain ⟨late, more, recordedLate, handledLate⟩ := closing
  refine ⟨calls ++ late, faults ++ more, ?_, handled.append handledLate⟩
  rw [recordedLate, recorded, List.append_assoc]

/-- One statement was executed, and its cursor was closed. -/
theorem closed
    {executed : σ}
    {sql : Value}
    {params : Option Params}
    {answer : Except Fault Cursor}
    (answers : backend.execute session.backend sql params = (answer, executed))
    (own : ∀ fault, answer = .error fault → fault.isDriverError = true)
    (closes : (backend.closeCursor executed).2 = after.backend)
    (called : after.calls = session.calls ++ [.execute sql params] ++ [.closeCursor]) :
    Settled backend session after := by
  refine ⟨[.execute sql params, .closeCursor], [], ?_, .closed answers own closes (.nil _)⟩
  rw [called, List.append_assoc]
  rfl

/-- One statement was executed and came to a foreign fault. -/
theorem abandoned
    {sql : Value}
    {params : Option Params}
    {fault : Fault}
    (answers : backend.execute session.backend sql params = (.error fault, after.backend))
    (foreign : fault.isDriverError = false)
    (called : after.calls = session.calls ++ [.execute sql params]) :
    Settled backend session after :=
  ⟨[.execute sql params], [fault], called, .abandoned answers foreign (.nil _)⟩

end Settled

/-- Whatever comes of the action, it leaves behind only open cursors of foreign faults. -/
def Settles
    (backend : Backend σ)
    (action : Action σ α) : Prop :=
  ∀ session, Settled backend session (action.outcome session).2

namespace Settles

variable {backend : Backend σ}

theorem pure (result : α) : Settles backend (Pure.pure result : Action σ α) :=
  fun _ => .unseen rfl rfl

theorem throw (error : Error) : Settles backend (MonadExcept.throw error : Action σ α) :=
  fun _ => .unseen rfl rfl

theorem lift (computed : Except Error α) : Settles backend (Action.lift computed : Action σ α) :=
  fun _ => .unseen rfl rfl

theorem get : Settles backend (MonadState.get : Action σ (Session σ)) :=
  fun _ => .unseen rfl rfl

/-- The session may change in what is neither called nor answered. -/
theorem modify
    {change : Session σ → Session σ}
    (sameCalls : ∀ session, (change session).calls = session.calls)
    (sameBackend : ∀ session, (change session).backend = session.backend) :
    Settles backend (modify change : Action σ Unit) :=
  fun session => .unseen (sameCalls session) (sameBackend session)

theorem bind
    {first : Action σ α}
    {next : α → Action σ β}
    (opening : Settles backend first)
    (closing : ∀ result, Settles backend (next result)) :
    Settles backend (first >>= next) := by
  intro session
  have before := opening session
  rw [Action.outcome_bind]
  rcases made : first.outcome session with ⟨error | result, after⟩
  · rw [made] at before
    exact before
  · rw [made] at before
    exact before.trans (closing result after)

theorem attempt
    {action : Action σ α}
    (settles : Settles backend action) :
    Settles backend action.attempt :=
  settles

theorem emit (event : Log.Event) : Settles backend (Action.emit event : Action σ Unit) :=
  (lift event.render?).bind fun _ => modify (fun _ => rfl) (fun _ => rfl)

end Settles

namespace Link

variable (link : Link σ)

/-- The event of an executed statement can be written exactly if its text can be logged. -/
theorem exists_render?_executedEvent_iff
    (sql : Value)
    (given : Option Params)
    (rowCount : Int) :
    (∃ record, (link.executedEvent sql given rowCount).render? = .ok record) ↔
      Redaction.isLoggable sql = true := by
  have ordinary : Redaction.isSensitive "sql" = false := by
    decide +kernel
  rw [Log.Event.exists_render?_iff]
  change Redaction.hasLoggablePairs [
      (.text "driver", .text link.driver.name),
      (.text "sql", sql),
      (.text "param_count", .int ((given.map Params.count).getD 0)),
      (.text "rowcount", .int rowCount),
      (.text "event", .text "sql.executed"),
      (.text "level", .text "debug"),
      (.text "logger", .text loggerName)] = true ↔ _
  simp [Redaction.hasLoggablePairs, Redaction.isLoggable, Json.isPlain, ordinary]

variable {link} {statement : Prepared} {given : Option Params} {session after : Session σ}

/-- If a statement whose text can be logged raises an error, then its cursor is settled. -/
theorem settled_of_raised
    (loggable : Redaction.isLoggable statement.sql = true)
    {error : Error}
    (executes : link.Executes statement given session (.error error) after) :
    Settled link.backend session after := by
  generalize raised : Except.error error = answer at executes
  cases executes with
  | returned =>
      cases raised
  | @unreported cursor _ _ _ unwritten =>
      have written := link.exists_render?_executedEvent_iff statement.sql given cursor.rowCount
      obtain ⟨record, rendered⟩ := written.mpr loggable
      rw [unwritten] at rendered
      cases rendered
  | rejected answers own closes
  | unreportedRejection answers own closes
  | unclosed answers own closes =>
      refine .closed answers ?_ (congrArg Prod.snd closes) rfl
      intro fault same
      cases same
      exact own
  | foreign answers foreign =>
      exact .abandoned answers foreign rfl

/-- If a statement returns a cursor, then closing that cursor settles it. -/
theorem settled_of_returned
    {result : Result}
    (executes : link.Executes statement given session (.ok result) after) :
    Settled link.backend session (link.closeCursor.outcome after).2 := by
  generalize returned : Except.ok result = answer at executes
  cases executes with
  | @returned cursor backend _ answers _ =>
      have own :
          ∀ fault : Fault, Except.ok cursor = Except.error fault → fault.isDriverError = true :=
        fun _ same => nomatch same
      rw [closeCursor_outcome]
      exact .closed answers own rfl rfl
  | unreported
  | rejected
  | unreportedRejection
  | unclosed
  | foreign =>
      cases returned

variable (link)

/-- A statement that is executed for the number of its rows settles its cursor. -/
theorem executeCount_settles
    (loggable : Redaction.isLoggable statement.sql = true)
    (params : List Value) :
    Settles link.backend (link.executeCount statement params) := by
  intro session
  have executes := link.execute_executes statement (some (.positional params)) session
  unfold executeCount
  rcases made : (link.execute statement (some (.positional params))).outcome session with
    ⟨error | result, after⟩
  · rw [made] at executes
    rw [Action.outcome_bind_of_error made]
    exact settled_of_raised loggable executes
  · rw [made] at executes
    have settled := settled_of_returned executes
    rw [Action.outcome_bind_of_ok made, Action.outcome_bind]
    rcases closing : link.closeCursor.outcome after with ⟨error | _, last⟩
    · rw [closing] at settled
      exact settled
    · rw [closing] at settled
      exact settled

/-- A command of the transaction settles its cursor. -/
theorem issue_settles (command : Transaction.Command) :
    Settles link.backend (link.issue command) := by
  rw [issue_eq]
  exact (link.executeCount_settles rfl []).bind fun _ => .pure true

end Link

end QueryComposer.Connection
