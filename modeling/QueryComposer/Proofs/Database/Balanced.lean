import QueryComposer.Database.Insertion
import QueryComposer.Proofs.Database.Move
import QueryComposer.Proofs.Statement.Refusals

namespace QueryComposer.Database

/-!
# Balanced use of levels

A program that opens levels only for blocks ends at the depth at which it started, whatever
fails on the way, and never leaves a level that is not there.

`Balanced` is the judgement that this holds of an action. A block is balanced since what closes
its level `Leaves` exactly one level, even if the command for it fails.
-/

open Connection (Action Link OfStatement Preserves Raises Session)

variable {σ α β : Type}

/-- The error is not that a level was to be left and none is open. -/
def NotOfTransaction (error : Error) : Prop :=
  error.kind? ≠ some .transactionState

/-- The action ends at the depth at which it started, and leaves no level that is not there. -/
structure Balanced (action : Action σ α) : Prop where
  depth : Preserves Session.depth action
  raises : Raises NotOfTransaction action

namespace Balanced

theorem pure (result : α) : Balanced (Pure.pure result : Action σ α) :=
  ⟨.pure result, .pure result⟩

theorem throw
    {error : Error}
    (permitted : NotOfTransaction error) :
    Balanced (MonadExcept.throw error : Action σ α) :=
  ⟨.throw error, .throw permitted⟩

theorem bind
    {first : Action σ α}
    {next : α → Action σ β}
    (opening : Balanced first)
    (closing : ∀ result, Balanced (next result)) :
    Balanced (first >>= next) :=
  ⟨opening.depth.bind fun result => (closing result).depth,
    opening.raises.bind fun result => (closing result).raises⟩

/-- What follows an attempt meets an error only if the attempted action raises it. -/
theorem attempt_bind
    {action : Action σ α}
    {next : Except Error α → Action σ β}
    (attempted : Balanced action)
    (onResult : ∀ result, Balanced (next (.ok result)))
    (onError : ∀ error, NotOfTransaction error → Balanced (next (.error error))) :
    Balanced (action.attempt >>= next) := by
  refine ⟨?_, attempted.raises.attempt_bind (fun result => (onResult result).raises)
    fun error raised => (onError error raised).raises⟩
  intro session
  have before := attempted.depth session
  rw [Action.outcome_attempt_bind]
  cases made : (action.outcome session).1 with
  | error error =>
      exact ((onError error (attempted.raises session error made)).depth _).trans before
  | ok result =>
      exact ((onResult result).depth _).trans before

/-- A computation is balanced if its errors are not about transactions. -/
theorem lift
    {computed : Except Error α}
    (fails : FailsWith NotOfTransaction computed) :
    Balanced (Action.lift computed : Action σ α) :=
  ⟨.lift computed, .lift fails⟩

/-- Composing a statement is balanced: it is refused for its arguments only. -/
theorem compose
    {computed : Except Error α}
    (fails : FailsWith OfComposition computed) :
    Balanced (Action.lift computed : Action σ α) :=
  .lift fun error refused => (fails error refused).kind?_ne_transactionState

/-- Executing statements is balanced, since their errors are their own. -/
theorem of_statement
    {action : Action σ α}
    (depth : Preserves Session.depth action)
    (raises : Raises OfStatement action) :
    Balanced action :=
  ⟨depth, raises.mono fun _ raised => raised.kind?_ne_transactionState⟩

theorem emit (event : Log.Event) : Balanced (Action.emit event : Action σ Unit) :=
  of_statement (.emit (fun _ _ => rfl) event) (Connection.emit_raises event)

theorem execute
    (link : Link σ)
    (statement : Prepared)
    (params : Option Connection.Params) :
    Balanced (link.execute statement params) :=
  of_statement (link.execute_preserves_depth statement params)
    (link.execute_raises statement params)

theorem executeCount
    (link : Link σ)
    (statement : Prepared)
    (params : List Value) :
    Balanced (link.executeCount statement params) :=
  of_statement (link.executeCount_preserves_depth statement params)
    (link.executeCount_raises statement params)

theorem issue
    (link : Link σ)
    (command : Transaction.Command) :
    Balanced (link.issue command) :=
  of_statement (link.issue_preserves_depth command) (link.issue_raises command)

end Balanced

/-- From inside a level the action ends one level further out, whatever comes of it. -/
structure Leaves (action : Action σ α) : Prop where
  depth :
    ∀ session, 0 < session.depth → (action.outcome session).2.depth = session.depth - 1
  raises :
    ∀ session, 0 < session.depth → FailsWith NotOfTransaction (action.outcome session).1

/-- Once a level is left, what follows is at the depth outside of it. -/
theorem Leaves.bind
    {first : Action σ α}
    {next : α → Action σ β}
    (leaving : Leaves first)
    (closing : ∀ result, Balanced (next result)) :
    Leaves (first >>= next) := by
  constructor
  · intro session inside
    have left := leaving.depth session inside
    rw [Action.outcome_bind]
    rcases made : first.outcome session with ⟨error | result, after⟩
    · rw [made] at left
      exact left
    · rw [made] at left
      exact ((closing result).depth after).trans left
  · intro session inside
    have raised := leaving.raises session inside
    rw [Action.outcome_bind]
    rcases made : first.outcome session with ⟨error | result, after⟩
    · rw [made] at raised
      exact .error (raised error rfl)
    · exact (closing result).raises after

/-- What follows a balanced attempt leaves the level that the attempt was made in. -/
theorem Leaves.attempt_bind
    {action : Action σ α}
    {next : Except Error α → Action σ β}
    (attempted : Balanced action)
    (onResult : ∀ result, Leaves (next (.ok result)))
    (onError : ∀ error, NotOfTransaction error → Leaves (next (.error error))) :
    Leaves (action.attempt >>= next) := by
  have closing : ∀ session, Leaves (next (action.outcome session).1) := by
    intro session
    cases made : (action.outcome session).1 with
    | error error =>
        exact onError error (attempted.raises session error made)
    | ok result =>
        exact onResult result
  constructor
  · intro session inside
    have before := attempted.depth session
    rw [Action.outcome_attempt_bind, (closing session).depth _ (before ▸ inside), before]
  · intro session inside
    have before := attempted.depth session
    rw [Action.outcome_attempt_bind]
    exact (closing session).raises _ (before ▸ inside)

/-- A move that leaves a level gives it up even if its command fails. -/
theorem leaves_move
    (db : Database σ)
    {move : Transaction.Move}
    (leaves : move ≠ .begin) :
    Leaves (db.move move) := by
  constructor
  · intro session inside
    obtain ⟨command, records, left⟩ := db.leave_cases leaves inside
    rw [left]
    exact (Balanced.issue db.link command).depth _
  · intro session inside
    obtain ⟨command, records, left⟩ := db.leave_cases leaves inside
    rw [left]
    exact (Balanced.issue db.link command).raises _

/-- A level that is given up while it is open is the innermost one. -/
theorem depth_of_rollback
    (db : Database σ)
    {session after : Session σ}
    {answer : Bool}
    (undone : db.rollback.outcome session = (.ok answer, after))
    (inside : 0 < session.depth) :
    after.depth = session.depth - 1 := by
  have leaves : Leaves db.rollback := db.leaves_move (by decide)
  have left := leaves.depth session inside
  rw [undone] at left
  exact left

/-- What opens a level and then leaves it is balanced; one that is not opened is not left. -/
theorem balanced_begin_bind
    (db : Database σ)
    {next : Bool → Action σ α}
    (closing : ∀ answer, Leaves (next answer)) :
    Balanced (db.begin >>= next) := by
  constructor
  · intro session
    rw [Action.outcome_bind]
    obtain ⟨error, after, failed, _, unchanged⟩ | ⟨answer, after, opened, deeper⟩ :=
      db.begin_cases session
    · rw [failed]
      exact unchanged
    · rw [opened]
      dsimp only
      rw [(closing answer).depth after (by omega), deeper, Nat.add_sub_cancel]
  · intro session
    rw [Action.outcome_bind]
    obtain ⟨error, after, failed, raised, _⟩ | ⟨answer, after, opened, deeper⟩ :=
      db.begin_cases session
    · rw [failed]
      exact .error raised.kind?_ne_transactionState
    · rw [opened]
      exact (closing answer).raises after (by omega)

/-- A block in a level of its own is balanced, whether it is committed or rolled back. -/
theorem balanced_transaction
    (db : Database σ)
    {block : Action σ α}
    (balanced : Balanced block) :
    Balanced (db.transaction block) := by
  apply db.balanced_begin_bind
  intro _
  apply Leaves.attempt_bind balanced
  · intro result
    have committed : Leaves (db.leaveTransaction none) :=
      (db.leaves_move (by decide)).bind fun _ => .pure ()
    exact committed.bind fun _ => .pure result
  · intro error raised
    have rolledBack : Leaves (db.leaveTransaction (some error)) :=
      (db.leaves_move (by decide)).bind fun _ => .throw raised
    exact rolledBack.bind fun _ => .throw raised

section Calls

variable (db : Database σ)

theorem preparedOf_failsWith (statement : Value) :
    FailsWith OfComposition (db.preparedOf statement) := by
  unfold preparedOf
  split
  · exact .ok _
  · exact .ok _
  · exact .error (.argument rfl)

theorem normalizeParams_failsWith (params : Value) :
    FailsWith OfComposition (normalizeParams params) := by
  unfold normalizeParams
  split
  · exact .ok none
  · exact .ok _
  · exact .ok _
  · exact .ok _
  · split
    · exact .ok _
    · exact .error (.argument rfl)

theorem balanced_query (statement params : Value) : Balanced (db.query statement params) := by
  refine (Balanced.compose (db.preparedOf_failsWith statement)).bind fun prepared => ?_
  refine (Balanced.compose (normalizeParams_failsWith params)).bind fun given => ?_
  exact .execute db.link prepared given

theorem balanced_select (columns tables filters order : Value) :
    Balanced (db.select columns tables filters order) := by
  refine (Balanced.compose (Statement.select_failsWith _ _ _ _ _)).bind fun statement => ?_
  exact .execute db.link _ _

theorem balanced_update (table values filters : Value) :
    Balanced (db.update table values filters) := by
  refine (Balanced.compose (Statement.update_failsWith _ _ _ _)).bind fun statement => ?_
  exact .executeCount db.link _ _

theorem balanced_delete (table filters : Value) : Balanced (db.delete table filters) := by
  refine (Balanced.compose (Statement.delete_failsWith _ _ _)).bind fun statement => ?_
  exact .executeCount db.link _ _

theorem fallback_failsWith
    (table : Value)
    (row : Statement.Row)
    (keys : List Value)
    (failure : Connection.Failure) :
    FailsWith OfComposition (db.fallback table row keys failure) := by
  unfold fallback
  split
  · exact Statement.upsertUpdate_failsWith _ _ _ _
  · exact .ok none

/-- The level of an insertion is left before the row in its way is updated. -/
theorem balanced_insertOrUpdate
    (table : Value)
    (statement : Prepared)
    (params : List Value)
    (row : Statement.Row)
    (keys : List Value) :
    Balanced (db.insertOrUpdate table statement params row keys) := by
  apply db.balanced_begin_bind
  intro _
  apply Leaves.attempt_bind (.executeCount db.link statement params)
  · intro count
    exact (db.leaves_move (by decide)).bind fun _ => .pure count
  · intro error raised
    have rollsBack : Leaves db.rollback := db.leaves_move (by decide)
    cases error with
    | execution failure =>
        refine rollsBack.bind fun _ => ?_
        have falls := db.fallback_failsWith table row keys failure
        refine (Balanced.compose falls).bind fun found => ?_
        cases found with
        | none =>
            exact .throw raised
        | some update =>
            exact (Balanced.emit _).bind fun _ => .executeCount db.link _ _
    | _ =>
        exact rollsBack.bind fun _ => .throw raised

theorem balanced_insertRows
    (table : Value)
    (statement : Prepared)
    (columns : List String)
    (keys : List Value)
    (rows : List Statement.Row) :
    Balanced (db.insertRows table statement columns keys rows) := by
  refine db.insertRows_closed Balanced (.pure 0) (fun opening closing => ?_)
    (fun _ row _ => ?_) fun _ row _ => ?_
  · exact opening.bind fun _ => closing.bind fun _ => .pure _
  · exact .executeCount db.link statement _
  · exact db.balanced_insertOrUpdate table statement _ row keys

theorem keyColumns_failsWith (upsertKeys : Value) :
    FailsWith OfComposition (keyColumns upsertKeys) := by
  unfold keyColumns
  split
  · exact .ok _
  · split
    · exact Statement.members_failsWith upsertKeys
    · exact .ok []

theorem balanced_insert (table values upsertKeys : Value) :
    Balanced (db.insert table values upsertKeys) := by
  refine (Balanced.compose (Statement.normalizeRows_failsWith values)).bind fun rows => ?_
  refine (Balanced.compose (Statement.insert_failsWith _ _ _)).bind fun sql => ?_
  refine (Balanced.compose (keyColumns_failsWith upsertKeys)).bind fun keys => ?_
  refine (db.balanced_insertRows table _ _ keys rows).bind fun affected => ?_
  exact (Balanced.emit _).bind fun _ => .pure affected

end Calls

end QueryComposer.Database
