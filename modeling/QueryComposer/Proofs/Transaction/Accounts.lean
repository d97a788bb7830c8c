import QueryComposer.Transaction.Tracker

namespace QueryComposer.Transaction

/-!
# What the depth counts

A command may fail, and then it has no effect at the database. A ledger keeps account of what a
run of moves has done there. The tracker gives a level up before the command that leaves it is
issued, so that a level whose command fails stays open at the database without being counted.

`Accounts` is the invariant of a run: the depth and the levels that were left, successfully or
not, add up to the levels that were begun.
-/

/-- What has been done at the database. -/
structure Ledger where
  begun : Nat
  left : Nat
  /-- Levels that were given up although the command to leave them failed. -/
  stranded : Nat
  /-- The flat transaction has been started and not been ended. -/
  isOpen : Bool
  /-- Commands to end the flat transaction that failed. -/
  unended : Nat
  deriving Repr, DecidableEq

namespace Ledger

/-- Nothing has been done. -/
def empty : Ledger :=
  ⟨0, 0, 0, false, 0⟩

/-- The levels that are open at the database. -/
def levels (ledger : Ledger) : Int :=
  ledger.begun - ledger.left

/-- Enter a command of a move that succeeded; the flat commands start and end the transaction. -/
def enterSuccess
    (ledger : Ledger)
    (move : Move)
    (command : Command) :
    Ledger :=
  if move = .begin then
    { ledger with
      begun := ledger.begun + 1
      isOpen := ledger.isOpen || command.isFlat }
  else
    { ledger with
      left := ledger.left + 1
      isOpen := ledger.isOpen && !command.isFlat }

/-- Enter a command of a move that failed; the database is left as it was. -/
def enterFailure
    (ledger : Ledger)
    (move : Move)
    (command : Command) :
    Ledger :=
  if move = .begin then
    ledger
  else
    { ledger with
      stranded := ledger.stranded + 1
      unended := if command.isFlat then ledger.unended + 1 else ledger.unended }

/-- Enter what came of a move; one that was refused has issued no command. -/
def enter
    (ledger : Ledger)
    (move : Move)
    (made : Step) :
    Ledger :=
  match made.command, made.outcome with
  | none, _ => ledger
  | some command, .ok _ => ledger.enterSuccess move command
  | some command, .error _ => ledger.enterFailure move command

end Ledger

/-- A tracker and the ledger of what its commands have done. -/
structure Audited where
  tracker : Tracker
  ledger : Ledger

namespace Audited

/-- A tracker before its first move. -/
def start : Audited :=
  ⟨.initial, .empty⟩

/-- Make a move and enter what came of it. -/
def step
    (verdict : Nat → Command → Except Error Value)
    (audited : Audited)
    (move : Move) :
    Step × Audited :=
  let (made, tracker) := audited.tracker.step verdict move
  (made, ⟨tracker, audited.ledger.enter move made⟩)

/-- Make several moves and tell what came of each and the ledger after it. -/
def run
    (verdict : Nat → Command → Except Error Value)
    (audited : Audited) :
    List Move →
    List (Step × Audited)
  | [] => []
  | move :: rest =>
      let made := audited.step verdict move
      made :: run verdict made.2 rest

/-- The ledger only looks on: without it the run is that of the tracker. -/
theorem run_erased
    (verdict : Nat → Command → Except Error Value)
    (audited : Audited)
    (moves : List Move) :
    ((audited.run verdict moves).map fun entry => (entry.1, entry.2.tracker)) =
      audited.tracker.run verdict moves := by
  induction moves generalizing audited with
  | nil =>
      rfl
  | cons move rest inductionHypothesis =>
      simp only [run, List.map_cons, Tracker.run, inductionHypothesis]
      rfl

end Audited

namespace Move

variable {move : Move} {depth : Nat} {command : Command}

/-- Beginning is flat at the outermost level. -/
theorem isFlat_iff_of_begin (issued : Move.begin.command? depth = some command) :
    command.isFlat = true ↔ depth = 0 := by
  cases depth with
  | zero =>
      cases issued
      simp [Command.isFlat]
  | succ outer =>
      cases issued
      simp [Command.isFlat]

/-- A level is left only inside of one, and the flat commands leave the outermost. -/
theorem isFlat_iff_of_leave
    (leaves : move ≠ .begin)
    (issued : move.command? depth = some command) :
    0 < depth ∧ (command.isFlat = true ↔ depth = 1) := by
  cases move with
  | begin =>
      exact (leaves rfl).elim
  | commit =>
      rcases depth with _ | _ | outer <;> cases issued <;> simp [Command.isFlat]
  | rollback =>
      rcases depth with _ | _ | outer <;> cases issued <;> simp [Command.isFlat]

/-- Leaving gives a level up whatever becomes of the command. -/
theorem depthAfter_of_leave
    (leaves : move ≠ .begin)
    (depth : Nat)
    (succeeded : Bool) :
    move.depthAfter depth succeeded = depth - 1 := by
  cases move with
  | begin =>
      exact (leaves rfl).elim
  | commit =>
      rfl
  | rollback =>
      rfl

end Move

namespace Audited

/-- What a step comes to: it is refused, or its command succeeds or fails. -/
inductive Made
    (audited : Audited)
    (move : Move) :
    Step → Audited → Prop where
  | refused
      (impossible : move.command? audited.tracker.depth = none) :
      Made audited move ⟨.error (.noTransaction move), none⟩ audited
  | succeeded
      {command : Command}
      (issued : move.command? audited.tracker.depth = some command)
      (answer : Value) :
      Made audited move ⟨.ok answer, some command⟩
        ⟨⟨move.depthAfter audited.tracker.depth true, audited.tracker.issued + 1⟩,
          audited.ledger.enterSuccess move command⟩
  | failed
      {command : Command}
      (issued : move.command? audited.tracker.depth = some command)
      (error : Error) :
      Made audited move ⟨.error error, some command⟩
        ⟨⟨move.depthAfter audited.tracker.depth false, audited.tracker.issued + 1⟩,
          audited.ledger.enterFailure move command⟩

variable
  (verdict : Nat → Command → Except Error Value)
  (audited : Audited)
  (move : Move)

theorem made_step :
    Made audited move (audited.step verdict move).1 (audited.step verdict move).2 := by
  unfold step Tracker.step
  cases possible : move.command? audited.tracker.depth with
  | none =>
      exact .refused possible
  | some command =>
      cases answered : verdict (audited.tracker.issued + 1) command with
      | ok answer =>
          simp only [answered]
          exact .succeeded possible _
      | error error =>
          simp only [answered]
          exact .failed possible error

/-- A move that has no command is refused, and nothing changes. -/
theorem step_of_impossible
    {audited : Audited}
    {move : Move}
    (impossible : move.command? audited.tracker.depth = none) :
    audited.step verdict move = (⟨.error (.noTransaction move), none⟩, audited) := by
  simp [step, Tracker.step, impossible, Ledger.enter]

/-- The depth alone decides which command a move issues. -/
theorem step_command :
    (audited.step verdict move).1.command = move.command? audited.tracker.depth := by
  have made := made_step verdict audited move
  generalize audited.step verdict move = result at made ⊢
  rcases result with ⟨step, after⟩
  cases made with
  | refused impossible =>
      exact impossible.symm
  | succeeded issued answer =>
      exact issued.symm
  | failed issued error =>
      exact issued.symm

end Audited

/-- The depth and the levels that were left add up to those that were begun. -/
structure Accounts (audited : Audited) : Prop where
  levels :
    audited.tracker.depth + audited.ledger.left + audited.ledger.stranded =
      audited.ledger.begun
  flat :
    audited.ledger.unended = 0 →
    (audited.ledger.isOpen = true ↔ audited.tracker.depth ≠ 0)

namespace Accounts

theorem start : Accounts .start where
  levels := rfl
  flat _ := by simp [Audited.start, Ledger.empty, Tracker.initial]

variable {audited : Audited} {move : Move} {command : Command}

/-- A command that succeeds opens a level or closes one, at the database and in the count. -/
theorem enterSuccess
    (accounts : Accounts audited)
    (issued : move.command? audited.tracker.depth = some command)
    (number : Nat) :
    Accounts
      ⟨⟨move.depthAfter audited.tracker.depth true, number⟩,
        audited.ledger.enterSuccess move command⟩ := by
  obtain ⟨levels, flat⟩ := accounts
  by_cases begins : move = .begin
  · subst begins
    have outermost := Move.isFlat_iff_of_begin issued
    constructor
    · simp only [Ledger.enterSuccess, Move.depthAfter, if_true]
      omega
    · intro ended
      have known := flat ended
      simp only [Ledger.enterSuccess, Move.depthAfter, if_true, Bool.or_eq_true, known, outermost]
      omega
  · obtain ⟨inside, outermost⟩ := Move.isFlat_iff_of_leave begins issued
    rw [Move.depthAfter_of_leave begins]
    constructor
    · simp only [Ledger.enterSuccess, if_neg begins]
      omega
    · intro ended
      simp only [Ledger.enterSuccess, if_neg begins] at ended ⊢
      rw [Bool.and_eq_true, flat ended, Bool.not_eq_true', Bool.eq_false_iff, ne_eq, ne_eq,
        outermost]
      omega

/-- A command that fails opens no level, and leaves one open that is no longer counted. -/
theorem enterFailure
    (accounts : Accounts audited)
    (issued : move.command? audited.tracker.depth = some command)
    (number : Nat) :
    Accounts
      ⟨⟨move.depthAfter audited.tracker.depth false, number⟩,
        audited.ledger.enterFailure move command⟩ := by
  obtain ⟨levels, flat⟩ := accounts
  by_cases begins : move = .begin
  · subst begins
    exact ⟨levels, flat⟩
  · obtain ⟨inside, outermost⟩ := Move.isFlat_iff_of_leave begins issued
    rw [Move.depthAfter_of_leave begins]
    constructor
    · simp only [Ledger.enterFailure, if_neg begins]
      omega
    · intro ended
      simp only [Ledger.enterFailure, if_neg begins] at ended ⊢
      -- A flat command would have been entered as failed, so the level has another one around it.
      split at ended
      · cases ended
      · next inner =>
          rw [flat ended]
          rw [outermost] at inner
          omega

/-- The accounts stay right whatever becomes of a move. -/
theorem step
    (accounts : Accounts audited)
    (verdict : Nat → Command → Except Error Value)
    (move : Move) :
    Accounts (audited.step verdict move).2 := by
  have made := Audited.made_step verdict audited move
  generalize audited.step verdict move = result at made ⊢
  rcases result with ⟨step, after⟩
  cases made with
  | refused impossible =>
      exact accounts
  | succeeded issued answer =>
      exact accounts.enterSuccess issued _
  | failed issued error =>
      exact accounts.enterFailure issued _

/-- The accounts are right after every move of a run. -/
theorem run
    (accounts : Accounts audited)
    (verdict : Nat → Command → Except Error Value)
    (moves : List Move) :
    ∀ entry ∈ audited.run verdict moves, Accounts entry.2 := by
  induction moves generalizing audited with
  | nil =>
      simp [Audited.run]
  | cons move rest inductionHypothesis =>
      intro entry member
      have accountsAfter := accounts.step verdict move
      rcases List.mem_cons.mp member with isFirst | inRest
      · rw [isFirst]
        exact accountsAfter
      · exact inductionHypothesis accountsAfter entry inRest

end Accounts

/-- What the depth of a tracker tells, and what the next move makes of it. -/
structure Truthful
    (verdict : Nat → Command → Except Error Value)
    (audited : Audited) : Prop where
  /-- The depth counts the open levels but for those whose command to leave them failed. -/
  counted :
    (audited.tracker.depth : Int) = audited.ledger.levels - audited.ledger.stranded
  /-- A move that issues no command leaves a level where there is none; it fails for that reason. -/
  refused :
    ∀ move,
      (audited.step verdict move).1.command = none →
      move ≠ .begin ∧
        audited.tracker.depth = 0 ∧
        (audited.step verdict move).1.outcome = .error (.noTransaction move) ∧
        (audited.step verdict move).2 = audited
  /-- Where no level is open, leaving one fails, issues no command and changes nothing. -/
  outside :
    ∀ move,
      move ≠ .begin →
      audited.tracker.depth = 0 →
      audited.step verdict move = (⟨.error (.noTransaction move), none⟩, audited)
  /-- A begin that fails leaves the depth as it was, so that it issues its command again. -/
  beginFailed :
    ∀ error,
      (audited.step verdict .begin).1.outcome = .error error →
      (audited.step verdict .begin).2.tracker.depth = audited.tracker.depth ∧
        ((audited.step verdict .begin).2.step verdict .begin).1.command =
          (audited.step verdict .begin).1.command
  /-- Leaving a level gives it up, whether its command succeeds or fails. -/
  gaveUp :
    ∀ move,
      move ≠ .begin →
      (audited.step verdict move).1.command ≠ none →
      (audited.step verdict move).2.tracker.depth + 1 = audited.tracker.depth
  /-- The transaction is started inside of one only if an earlier one could not be ended. -/
  beganInside :
    (audited.step verdict .begin).1.command = some .begin →
    audited.ledger.isOpen = true →
    0 < audited.ledger.unended

namespace Accounts

variable {audited : Audited}

/-- Where the accounts are right, the depth is as truthful as it can be. -/
theorem truthful
    (accounts : Accounts audited)
    (verdict : Nat → Command → Except Error Value) :
    Truthful verdict audited where
  counted := by
    have levels := accounts.levels
    unfold Ledger.levels
    omega
  refused := by
    intro move unissued
    have impossible : move.command? audited.tracker.depth = none := by
      rw [← Audited.step_command verdict audited, unissued]
    obtain ⟨leaves, outside⟩ := (move.command?_eq_none_iff _).mp impossible
    rw [Audited.step_of_impossible verdict impossible]
    exact ⟨leaves, outside, rfl, rfl⟩
  outside := by
    intro move leaves outside
    exact Audited.step_of_impossible verdict ((move.command?_eq_none_iff _).mpr ⟨leaves, outside⟩)
  beginFailed := by
    intro error failed
    have unmoved : (audited.step verdict .begin).2.tracker.depth = audited.tracker.depth := by
      have made := Audited.made_step verdict audited .begin
      generalize audited.step verdict .begin = result at made failed ⊢
      rcases result with ⟨step, after⟩
      cases made with
      | refused impossible =>
          rfl
      | succeeded issued answer =>
          cases failed
      | failed issued error =>
          rfl
    refine ⟨unmoved, ?_⟩
    rw [Audited.step_command, Audited.step_command, unmoved]
  gaveUp := by
    intro move leaves issues
    have made := Audited.made_step verdict audited move
    generalize audited.step verdict move = result at made issues ⊢
    rcases result with ⟨step, after⟩
    cases made with
    | refused impossible =>
        exact (issues rfl).elim
    | succeeded issued answer =>
        have inside := (Move.isFlat_iff_of_leave leaves issued).1
        dsimp only
        rw [Move.depthAfter_of_leave leaves]
        omega
    | failed issued error =>
        have inside := (Move.isFlat_iff_of_leave leaves issued).1
        dsimp only
        rw [Move.depthAfter_of_leave leaves]
        omega
  beganInside := by
    intro begins inside
    rw [Audited.step_command] at begins
    have outside : audited.tracker.depth = 0 := (Move.isFlat_iff_of_begin begins).mp rfl
    rw [Nat.pos_iff_ne_zero]
    intro ended
    exact (accounts.flat ended).mp inside outside

end Accounts

/--
What the depth of a tracker tells after every move of a run, whichever commands fail.

The depth is the number of levels that were begun less those that were left, successfully or not.
-/
theorem depth_of_run
    (verdict : Nat → Command → Except Error Value)
    (moves : List Move) :
    ((Audited.start.run verdict moves).map fun entry => (entry.1, entry.2.tracker)) =
        Tracker.initial.run verdict moves ∧
      ∀ entry ∈ Audited.start.run verdict moves, Truthful verdict entry.2 := by
  refine ⟨Audited.start.run_erased verdict moves, ?_⟩
  intro entry member
  exact (Accounts.start.run verdict moves entry member).truthful verdict

/-- The commands succeed but for the one of a number. -/
def allBut
    (number : Nat)
    (issued : Nat)
    (_ : Command) :
    Except Error Value :=
  if issued = number then
    .error (.fault (.foreign "connection lost"))
  else
    .ok (.bool true)

/-- A commit that fails leaves a level open at the database that the depth does not count. -/
theorem depth_ne_levels_of_commit_failed :
    ¬ ∀ (verdict : Nat → Command → Except Error Value) (moves : List Move),
        ∀ entry ∈ Audited.start.run verdict moves,
          (entry.2.tracker.depth : Int) = entry.2.ledger.levels := by
  intro counted
  have last := counted (allBut 2) [.begin, .commit]
  revert last
  decide

end QueryComposer.Transaction
