import QueryComposer.Proofs.Transaction.Marks

namespace QueryComposer.Transaction

/-!
# Nested transactions on a flat machine

A program with nested transactions keeps one snapshot of the data for each open level: beginning
takes a snapshot, committing drops the innermost one, and rolling back restores it. A tracker
plays the same program on a machine that knows only flat commands and savepoints.

The main result is `views_played_eq_views_nested`: whatever the program does, the machine never
meets an error, and after every event it shows the data, the depth and the refusals of the nested
program.
-/

variable {δ : Type}

/-- What happens while a connection is used: a move of the program, or a change of the data. -/
inductive Event (δ : Type) where
  | move (move : Move)
  | change (next : δ → δ)

/-- What can be seen after an event: the data, the open levels, and why a move was refused. -/
structure View (δ : Type) where
  data : δ
  depth : Nat
  refusal : Option Error

/-- Data and a snapshot for each open level, innermost first. -/
structure Nested (δ : Type) where
  data : δ
  snapshots : List δ

namespace Nested

/-- Data outside of every transaction. -/
def start (data : δ) : Nested δ :=
  ⟨data, []⟩

/-- Make a move; there is none to leave if no level is open. -/
def make
    (nested : Nested δ) :
    Move →
    Option (Nested δ)
  | .begin => some ⟨nested.data, nested.data :: nested.snapshots⟩
  | .commit =>
      match nested.snapshots with
      | [] => none
      | _ :: outer => some ⟨nested.data, outer⟩
  | .rollback =>
      match nested.snapshots with
      | [] => none
      | snapshot :: outer => some ⟨snapshot, outer⟩

/-- Let an event happen; a refused move leaves everything as it is. -/
def step
    (nested : Nested δ) :
    Event δ →
    Option Error × Nested δ
  | .change next => (none, { nested with data := next nested.data })
  | .move move =>
      match nested.make move with
      | some after => (none, after)
      | none => (some (.noTransaction move), nested)

/-- What can be seen after each of several events. -/
def views (nested : Nested δ) : List (Event δ) → List (View δ)
  | [] => []
  | event :: rest =>
      let (refusal, after) := nested.step event
      ⟨after.data, after.snapshots.length, refusal⟩ :: after.views rest

end Nested

/-- A tracker and the machine that its commands run on. -/
structure Played (δ : Type) where
  tracker : Tracker
  machine : Machine δ

namespace Played

/-- A tracker before its first move, on a machine outside of every transaction. -/
def start (data : δ) : Played δ :=
  ⟨.initial, ⟨data, []⟩⟩

/-- Why a move was refused. -/
def refusal (made : Step) : Option Error :=
  match made.outcome with
  | .ok _ => none
  | .error error => some error

/--
Let an event happen, given the answers to the commands, each of which succeeds.

There is no outcome if the machine meets an error.
-/
def step
    (answer : Nat → Command → Value)
    (played : Played δ) :
    Event δ →
    Option (Option Error × Played δ)
  | .change next =>
      some (none, ⟨played.tracker, ⟨next played.machine.data, played.machine.marks⟩⟩)
  | .move move =>
      let (made, tracker) :=
        played.tracker.step (fun number command => .ok (answer number command)) move
      match made.command with
      | none => some (refusal made, ⟨tracker, played.machine⟩)
      | some command =>
          match played.machine.execute command with
          | none => none
          | some machine => some (refusal made, ⟨tracker, machine⟩)

/-- What can be seen after each of several events, unless the machine meets an error. -/
def views
    (answer : Nat → Command → Value)
    (played : Played δ) :
    List (Event δ) →
    Option (List (View δ))
  | [] => some []
  | event :: rest => do
      let (refusal, after) ← played.step answer event
      let others ← after.views answer rest
      return ⟨after.machine.data, after.tracker.depth, refusal⟩ :: others

end Played

/-- The machine holds the data of the nested program, and its marks carry the snapshots. -/
structure Simulates
    (played : Played δ)
    (nested : Nested δ) : Prop where
  data :
    played.machine.data = nested.data
  depth :
    played.tracker.depth = nested.snapshots.length
  marks :
    Carries played.machine.marks nested.snapshots

namespace Simulates

/-- Before the first event the machine has no marks and the program no snapshots. -/
theorem start (data : δ) : Simulates (Played.start data) (Nested.start data) where
  data := rfl
  depth := rfl
  marks := .closed

variable {played : Played δ} {nested : Nested δ}

/-- A move whose command succeeds on the machine is a step of both. -/
theorem step_move
    {answer : Nat → Command → Value}
    {move : Move}
    {after : Nested δ}
    (command : Command)
    (machine : Machine δ)
    (issued : move.command? played.tracker.depth = some command)
    (executed : played.machine.execute command = some machine)
    (made : nested.make move = some after)
    (data : machine.data = after.data)
    (depth : move.depthAfter played.tracker.depth true = after.snapshots.length)
    (marks : Carries machine.marks after.snapshots) :
    ∃ later,
      played.step answer (.move move) = some ((nested.step (.move move)).1, later) ∧
        Simulates later (nested.step (.move move)).2 := by
  refine ⟨⟨⟨after.snapshots.length, played.tracker.issued + 1⟩, machine⟩, ?_, ?_⟩
  · simp [Played.step, Tracker.step, issued, executed, Nested.step, made, Played.refusal, depth]
  · simp only [Nested.step, made]
    exact ⟨data, rfl, marks⟩

/-- Beginning sets a mark with the data for the new level. -/
theorem step_begin
    (simulates : Simulates played nested)
    (answer : Nat → Command → Value) :
    ∃ later,
      played.step answer (.move .begin) = some ((nested.step (.move .begin)).1, later) ∧
        Simulates later (nested.step (.move .begin)).2 := by
  obtain ⟨data, depth, marks⟩ := simulates
  rcases nested with ⟨_, snapshots⟩
  cases data
  cases snapshots with
  | nil =>
      have unmarked := marks.marks_eq_nil_iff.mpr rfl
      refine step_move .begin ⟨played.machine.data, [.start played.machine.data]⟩
        ?_ ?_ rfl rfl ?_ ?_
      · simp [depth, Move.command?]
      · simp [Machine.execute, unmarked]
      · simp [depth, Move.depthAfter]
      · exact .outermost played.machine.data
  | cons snapshot outer =>
      have marked : played.machine.marks ≠ [] := by
        rw [Ne, marks.marks_eq_nil_iff]
        simp
      obtain ⟨top, below, shape⟩ := List.exists_cons_of_ne_nil marked
      refine step_move (.savepoint (outer.length + 1))
        ⟨played.machine.data,
          .savepoint (outer.length + 1) played.machine.data :: played.machine.marks⟩
        ?_ ?_ rfl rfl ?_ ?_
      · simp [depth, Move.command?]
      · simp [Machine.execute, shape]
      · simp [depth, Move.depthAfter]
      · exact .level played.machine.data marks (by simp)

/-- Committing the outermost level drops all marks, committing another one those above its own. -/
theorem step_commit
    (simulates : Simulates played nested)
    (opened : nested.snapshots ≠ [])
    (answer : Nat → Command → Value) :
    ∃ later,
      played.step answer (.move .commit) = some ((nested.step (.move .commit)).1, later) ∧
        Simulates later (nested.step (.move .commit)).2 := by
  obtain ⟨data, depth, marks⟩ := simulates
  rcases nested with ⟨_, snapshots⟩
  cases data
  match snapshots with
  | [] => exact (opened rfl).elim
  | [snapshot] =>
      have marked : played.machine.marks ≠ [] := by
        rw [Ne, marks.marks_eq_nil_iff]
        simp
      obtain ⟨top, below, shape⟩ := List.exists_cons_of_ne_nil marked
      refine step_move .commit ⟨played.machine.data, []⟩ ?_ ?_ rfl rfl ?_ ?_
      · simp [depth, Move.command?]
      · simp [Machine.execute, shape]
      · simp [depth, Move.depthAfter]
      · exact .closed
  | snapshot :: next :: outer =>
      obtain ⟨below, found, carried⟩ := marks.marksFrom_innermost (by simp)
      refine step_move (.release (outer.length + 1)) ⟨played.machine.data, below⟩
        ?_ ?_ rfl rfl ?_ carried
      · simp [depth, Move.command?]
      · rw [List.length_cons] at found
        simp [Machine.execute, found]
      · simp [depth, Move.depthAfter]

/--
Rolling back restores the snapshot of the level.

The mark of a level inside another one stays behind. Its name belongs to no level that is still
open, so that it is stale.
-/
theorem step_rollback
    (simulates : Simulates played nested)
    (opened : nested.snapshots ≠ [])
    (answer : Nat → Command → Value) :
    ∃ later,
      played.step answer (.move .rollback) = some ((nested.step (.move .rollback)).1, later) ∧
        Simulates later (nested.step (.move .rollback)).2 := by
  obtain ⟨data, depth, marks⟩ := simulates
  rcases nested with ⟨_, snapshots⟩
  cases data
  match snapshots with
  | [] => exact (opened rfl).elim
  | [snapshot] =>
      have bottom := marks.getLast?_marks
      rw [List.getLast?_singleton, Option.map_eq_some_iff] at bottom
      obtain ⟨mark, last, held⟩ := bottom
      refine step_move .rollback ⟨snapshot, []⟩ ?_ ?_ rfl rfl ?_ ?_
      · simp [depth, Move.command?]
      · simp [Machine.execute, last, held]
      · simp [depth, Move.depthAfter]
      · exact .closed
  | snapshot :: next :: outer =>
      obtain ⟨below, found, carried⟩ := marks.marksFrom_innermost (by simp)
      rw [List.length_cons] at found
      refine step_move (.rollbackTo (outer.length + 1))
        ⟨snapshot, .savepoint (outer.length + 1) snapshot :: below⟩
        ?_ ?_ rfl rfl ?_ ?_
      · simp [depth, Move.command?]
      · simp [Machine.execute, found, Mark.savepoint]
      · simp [depth, Move.depthAfter]
      · exact .stale snapshot carried (by simp) (by simp)

/-- Without an open level nothing is left, and no command is issued. -/
theorem step_refused
    (simulates : Simulates played nested)
    (closed : nested.snapshots = [])
    {move : Move}
    (leaves : move ≠ .begin)
    (answer : Nat → Command → Value) :
    ∃ later,
      played.step answer (.move move) = some ((nested.step (.move move)).1, later) ∧
        Simulates later (nested.step (.move move)).2 := by
  have outside : played.tracker.depth = 0 := by
    rw [simulates.depth, closed]
    rfl
  have noCommand := (Move.command?_eq_none_iff move played.tracker.depth).mpr ⟨leaves, outside⟩
  have notMade : nested.make move = none := by
    cases move with
    | begin => exact (leaves rfl).elim
    | commit => simp [Nested.make, closed]
    | rollback => simp [Nested.make, closed]
  refine ⟨played, ?_, ?_⟩
  · simp [Played.step, Tracker.step, noCommand, Nested.step, notMade, Played.refusal]
  · simpa [Nested.step, notMade] using simulates

/-- Every event is a step of both, after which the machine still simulates the program. -/
theorem step
    (simulates : Simulates played nested)
    (answer : Nat → Command → Value)
    (event : Event δ) :
    ∃ later,
      played.step answer event = some ((nested.step event).1, later) ∧
        Simulates later (nested.step event).2 := by
  cases event with
  | change next =>
      refine ⟨_, rfl, ?_⟩
      exact ⟨congrArg next simulates.data, simulates.depth, simulates.marks⟩
  | move move =>
      by_cases closed : nested.snapshots = []
      · cases move with
        | begin => exact simulates.step_begin answer
        | commit => exact simulates.step_refused closed (by simp) answer
        | rollback => exact simulates.step_refused closed (by simp) answer
      · cases move with
        | begin => exact simulates.step_begin answer
        | commit => exact simulates.step_commit closed answer
        | rollback => exact simulates.step_rollback closed answer

/-- From states that belong together both show the same after every one of the events. -/
theorem views_eq
    (simulates : Simulates played nested)
    (answer : Nat → Command → Value)
    (events : List (Event δ)) :
    played.views answer events = some (nested.views events) := by
  induction events generalizing played nested with
  | nil =>
      rfl
  | cons event rest inductionHypothesis =>
      obtain ⟨later, stepped, still⟩ := simulates.step answer event
      have others := inductionHypothesis still
      simp [Played.views, Nested.views, stepped, others, still.data, still.depth]

end Simulates

/--
Flat commands with savepoints simulate nested transactions.

No command of the tracker is an error on the machine, and after every event the machine shows
what the nested program shows.
-/
theorem views_played_eq_views_nested
    (answer : Nat → Command → Value)
    (data : δ)
    (events : List (Event δ)) :
    (Played.start data).views answer events = some ((Nested.start data).views events) :=
  (Simulates.start data).views_eq answer events

end QueryComposer.Transaction
