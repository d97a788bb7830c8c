namespace QueryComposer.Transaction

/-!
# Nested transactions as flat commands

A connection has one flat transaction. Nested transactions are played on it: the outermost level
is the transaction itself, the level opened at depth `d > 0` is the savepoint of number `d`.

`Move.command?` says which command a move issues at a depth and `Move.depthAfter` which depth
holds afterwards. Beginning counts a level only once its command has succeeded; leaving gives
the level up before its command is issued, so that a failing command does not leave it open.
-/

/-- A step of a program with nested transactions. -/
inductive Move where
  | begin
  | commit
  | rollback
  deriving Repr, DecidableEq

/-- A command that a connection understands. -/
inductive Command where
  | begin
  | commit
  | rollback
  | savepoint (level : Nat)
  | release (level : Nat)
  | rollbackTo (level : Nat)
  deriving Repr, DecidableEq

/-- The name of the savepoint of a level. -/
def savepointName (level : Nat) : String :=
  "LEVEL" ++ toString level

namespace Move

/-- The name of a move. -/
def name : Move → String
  | .begin => "begin"
  | .commit => "commit"
  | .rollback => "rollback"

/-- The command that a move issues at a depth; there is none to leave at depth zero. -/
def command? : Move → Nat → Option Command
  | .begin, 0 => some .begin
  | .begin, depth + 1 => some (.savepoint (depth + 1))
  | .commit, 0 => none
  | .commit, 1 => some .commit
  | .commit, depth + 2 => some (.release (depth + 1))
  | .rollback, 0 => none
  | .rollback, 1 => some .rollback
  | .rollback, depth + 2 => some (.rollbackTo (depth + 1))

/-- The depth after a move whose command succeeded or failed. -/
def depthAfter
    (move : Move)
    (depth : Nat)
    (succeeded : Bool) :
    Nat :=
  match move with
  | .begin => if succeeded then depth + 1 else depth
  | .commit
  | .rollback => depth - 1

/-- A move has no command exactly if it leaves a level that is not there. -/
theorem command?_eq_none_iff
    (move : Move)
    (depth : Nat) :
    move.command? depth = none ↔ move ≠ .begin ∧ depth = 0 := by
  rcases move <;> rcases depth with _ | _ | depth <;> simp [command?]

end Move

namespace Command

/-- The SQL text of a command, given the text that starts a transaction. -/
def sql
    (beginStatement : String) :
    Command →
    String
  | .begin => beginStatement
  | .commit => "COMMIT"
  | .rollback => "ROLLBACK"
  | .savepoint level => "SAVEPOINT " ++ savepointName level
  | .release level => "RELEASE SAVEPOINT " ++ savepointName level
  | .rollbackTo level => "ROLLBACK TO SAVEPOINT " ++ savepointName level

end Command

end QueryComposer.Transaction
