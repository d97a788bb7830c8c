import QueryComposer.Error.Basic

namespace QueryComposer.Transaction

/-!
# Tracking the depth

A tracker counts the open levels while commands are issued that may fail. `Tracker.step` makes
one move, given what becomes of each command.
-/

/-- The number of open levels and of the commands issued so far. -/
structure Tracker where
  depth : Nat
  issued : Nat
  deriving Repr, DecidableEq

/-- What came of a move: its outcome and the command that it issued, if it issued one. -/
structure Step where
  outcome : Except Error Value
  command : Option Command

namespace Command

/-- The command belongs to the flat transaction, and not to a savepoint in it. -/
def isFlat : Command → Bool
  | .begin
  | .commit
  | .rollback => true
  | _ => false

end Command

namespace Tracker

/-- A tracker before the first move. -/
def initial : Tracker :=
  ⟨0, 0⟩

/-- A level is open. -/
def isActive (tracker : Tracker) : Bool :=
  tracker.depth != 0

/-- Make a move; `verdict` tells, by its number, what becomes of a command. -/
def step
    (verdict : Nat → Command → Except Error Value)
    (tracker : Tracker)
    (move : Move) :
    Step × Tracker :=
  match move.command? tracker.depth with
  | none => (⟨.error (.noTransaction move), none⟩, tracker)
  | some command =>
      let number := tracker.issued + 1
      match verdict number command with
      | .ok answer =>
          let answer := if command.isFlat then answer else .bool true
          (⟨.ok answer, some command⟩, ⟨move.depthAfter tracker.depth true, number⟩)
      | .error error =>
          (⟨.error error, some command⟩, ⟨move.depthAfter tracker.depth false, number⟩)

/-- Make several moves, one after the other, and tell what came of each and the tracker after it. -/
def run
    (verdict : Nat → Command → Except Error Value)
    (tracker : Tracker) :
    List Move →
    List (Step × Tracker)
  | [] => []
  | move :: rest =>
      let made := tracker.step verdict move
      made :: run verdict made.2 rest

end Tracker

end QueryComposer.Transaction
