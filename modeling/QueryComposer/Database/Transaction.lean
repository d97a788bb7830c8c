import QueryComposer.Database.Basic

namespace QueryComposer.Database

/-!
# Transactions

Transactions can be nested to any depth. A move opens a level, or commits or rolls back the
innermost one; `transaction` runs a block in a level of its own.
-/

open Connection (Action)

variable {σ : Type}

/-- The name of the logger of transactions. -/
def transactionLoggerName : String :=
  "structured_sql.infrastructure.sql.operations.transactions"

/-- The event of a move that led to a depth. -/
def moveEvent
    (move : Transaction.Move)
    (depth : Nat) :
    Log.Event where
  level := .debug
  logger := transactionLoggerName
  fields := [
    ("depth", .int depth),
    ("event", .text ("transaction." ++ move.name))]

/-- Hold the session at a depth and log the move that led to it. -/
def arrive
    (move : Transaction.Move)
    (depth : Nat) :
    Action σ Unit := do
  modify fun session => { session with depth := depth }
  Action.emit (moveEvent move depth)

/-- Make a move: open a level, or commit or roll back the innermost one. -/
def move
    (db : Database σ)
    (move : Transaction.Move) :
    Action σ Bool := do
  let depth := (← get).depth
  match move.command? depth with
  | none => throw (.noTransaction move)
  | some command =>
      if move = .begin then
        let answer ← db.link.issue command
        arrive move (move.depthAfter depth true)
        return answer
      else
        arrive move (move.depthAfter depth true)
        db.link.issue command

/-- What holds of a move is what holds of its command together with the change of the depth. -/
theorem move_closed
    (db : Database σ)
    {move : Transaction.Move}
    (Holds : Action σ Bool → Prop)
    (reads :
      ∀ {next : Connection.Session σ → Action σ Bool},
        (∀ session, Holds (next session)) →
        Holds (get >>= next))
    (refuses : Holds (throw (.noTransaction move)))
    (opens :
      ∀ command depth,
        Holds (do
          let answer ← db.link.issue command
          arrive move depth
          return answer))
    (leaves :
      ∀ command depth,
        Holds (do
          arrive move depth
          db.link.issue command)) :
    Holds (db.move move) := by
  unfold Database.move
  refine reads fun session => ?_
  dsimp only
  split
  · exact refuses
  · split
    · exact opens _ _
    · exact leaves _ _

/-- Open a level. -/
def begin (db : Database σ) : Action σ Bool :=
  db.move .begin

/-- Commit the innermost level. -/
def commit (db : Database σ) : Action σ Bool :=
  db.move .commit

/-- Roll back the innermost level. -/
def rollback (db : Database σ) : Action σ Bool :=
  db.move .rollback

/-- End a block that ran in a level of its own: commit it, or roll it back and fail again. -/
def leaveTransaction
    (db : Database σ)
    (failure : Option Error) :
    Action σ Unit := do
  match failure with
  | none =>
      let _ ← db.commit
  | some error =>
      let _ ← db.rollback
      throw error

/-- Run a block in a level of its own. -/
def transaction
    {α : Type}
    (db : Database σ)
    (block : Action σ α) :
    Action σ α := do
  let _ ← db.begin
  match ← Action.attempt block with
  | .ok result =>
      db.leaveTransaction none
      return result
  | .error error =>
      db.leaveTransaction (some error)
      throw error

end QueryComposer.Database
