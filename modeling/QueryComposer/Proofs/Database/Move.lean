import QueryComposer.Database.Transaction
import QueryComposer.Proofs.Connection.Preserves
import QueryComposer.Proofs.Connection.Raises

namespace QueryComposer.Database

/-!
# What a move does to a session

A move is the execution of one command, together with a change of the depth. Opening a level
counts it once its command has succeeded; leaving one gives it up before its command is sent.
-/

open Connection (Action OfStatement Session)

variable {σ : Type}

/-- A move arrives at its depth, and only the depth and the log show it. -/
theorem arrive_outcome
    (move : Transaction.Move)
    (depth : Nat)
    (session : Session σ) :
    ∃ records,
      (arrive move depth).outcome session =
        (.ok (), { session with depth := depth, records := records }) := by
  have writable : ∀ field ∈ (moveEvent move depth).fields, Log.Writable field.2 :=
    List.forall_mem_cons.mpr
      ⟨Log.writable_int _, List.forall_mem_singleton.mpr (Log.writable_text _)⟩
  obtain ⟨records, emitted⟩ := Action.emit_outcome writable { session with depth := depth }
  exact ⟨records, emitted⟩

section Commands

variable
  (db : Database σ)
  {session : Session σ}
  {command : Transaction.Command}

/-- A move issues the command that it has at the depth of the session. -/
theorem move_outcome
    {move : Transaction.Move}
    (issues : move.command? session.depth = some command) :
    (db.move move).outcome session =
      Action.outcome
        (if move = .begin then do
          let answer ← db.link.issue command
          arrive move (move.depthAfter session.depth true)
          return answer
        else do
          arrive move (move.depthAfter session.depth true)
          db.link.issue command)
        session := by
  have gets : (get : Action σ (Session σ)).outcome session = (.ok session, session) := rfl
  unfold Database.move
  rw [Action.outcome_bind, gets]
  dsimp only
  rw [issues]

/-- A level whose command fails is not opened. -/
theorem begin_outcome_of_error
    {error : Error}
    {after : Session σ}
    (issues : Transaction.Move.begin.command? session.depth = some command)
    (failed : (db.link.issue command).outcome session = (.error error, after)) :
    db.begin.outcome session = (.error error, after) := by
  rw [begin, db.move_outcome issues, if_pos rfl, Action.outcome_bind_of_error failed]

/-- A level whose command succeeds is counted. -/
theorem begin_outcome_of_ok
    {answer : Bool}
    {after : Session σ}
    (issues : Transaction.Move.begin.command? session.depth = some command)
    (succeeded : (db.link.issue command).outcome session = (.ok answer, after)) :
    ∃ records,
      db.begin.outcome session =
        (.ok answer, { after with depth := session.depth + 1, records := records }) := by
  obtain ⟨records, arrived⟩ := arrive_outcome .begin (session.depth + 1) after
  have counts : Transaction.Move.begin.depthAfter session.depth true = session.depth + 1 := rfl
  refine ⟨records, ?_⟩
  rw [begin, db.move_outcome issues, if_pos rfl, Action.outcome_bind_of_ok succeeded, counts,
    Action.outcome_bind_of_ok arrived]
  rfl

/-- A level is given up before the command that leaves it is issued. -/
theorem leave_outcome
    {move : Transaction.Move}
    (leaves : move ≠ .begin)
    (issues : move.command? session.depth = some command) :
    ∃ records,
      (db.move move).outcome session =
        (db.link.issue command).outcome
          { session with depth := session.depth - 1, records := records } := by
  obtain ⟨records, arrived⟩ := arrive_outcome move (session.depth - 1) session
  have givesUp : move.depthAfter session.depth true = session.depth - 1 := by
    cases move with
    | begin =>
        exact absurd rfl leaves
    | commit
    | rollback =>
        rfl
  refine ⟨records, ?_⟩
  rw [db.move_outcome issues, if_neg leaves, givesUp, Action.outcome_bind_of_ok arrived]

end Commands

/-- Opening a level fails at the depth of the session, or succeeds one level deeper. -/
theorem begin_cases
    (db : Database σ)
    (session : Session σ) :
    (∃ error after,
      db.begin.outcome session = (.error error, after) ∧
        OfStatement error ∧ after.depth = session.depth) ∨
      ∃ answer after,
        db.begin.outcome session = (.ok answer, after) ∧ after.depth = session.depth + 1 := by
  obtain ⟨command, issues⟩ : ∃ command,
      Transaction.Move.begin.command? session.depth = some command := by
    rw [← Option.ne_none_iff_exists', ne_eq, Transaction.Move.command?_eq_none_iff]
    simp
  rcases issued : (db.link.issue command).outcome session with ⟨error | answer, after⟩
  · left
    refine ⟨error, after, db.begin_outcome_of_error issues issued, ?_, ?_⟩
    · exact db.link.issue_raises command session error (by rw [issued])
    · have same := db.link.issue_preserves_depth command session
      rwa [issued] at same
  · right
    obtain ⟨records, opened⟩ := db.begin_outcome_of_ok issues issued
    exact ⟨answer, _, opened, rfl⟩

theorem depth_of_begin
    (db : Database σ)
    {session after : Session σ}
    {answer : Bool}
    (opened : db.begin.outcome session = (.ok answer, after)) :
    after.depth = session.depth + 1 := by
  obtain ⟨error, _, failed, _⟩ | ⟨_, _, succeeded, deeper⟩ := db.begin_cases session
  · rw [opened] at failed
    cases failed
  · rw [opened] at succeeded
    cases succeeded
    exact deeper

/-- Inside a level a move that leaves it issues some command one level further out. -/
theorem leave_cases
    (db : Database σ)
    {move : Transaction.Move}
    (leaves : move ≠ .begin)
    {session : Session σ}
    (inside : 0 < session.depth) :
    ∃ command records,
      (db.move move).outcome session =
        (db.link.issue command).outcome
          { session with depth := session.depth - 1, records := records } := by
  cases issues : move.command? session.depth with
  | none =>
      have outside := ((Transaction.Move.command?_eq_none_iff _ _).mp issues).2
      omega
  | some command =>
      obtain ⟨records, left⟩ := db.leave_outcome leaves issues
      exact ⟨command, records, left⟩

end QueryComposer.Database
