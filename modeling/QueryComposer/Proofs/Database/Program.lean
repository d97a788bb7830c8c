import QueryComposer.Proofs.Database.Balanced

namespace QueryComposer.Database

/-!
# Programs that use a database

A program calls a database, goes on with what the calls return, raises and catches errors, and
runs blocks in levels of their own. Whatever the backend answers to it, every such program ends
at the depth at which it started, and never finds that it leaves a level that is not there. Its
calls and its blocks are programs themselves, so that this holds of each of them as well.
-/

open Connection (Action Result Session)

/-- A program that opens and leaves levels only by running blocks in them. -/
inductive Program : Type → Type 1 where
  | result {α : Type} (value : α) : Program α
  /-- Raise an error; that no level is open is not for a program to say. -/
  | raise {α : Type} (error : Error) (own : NotOfTransaction error) : Program α
  | query (statement params : Value) : Program Result
  | select (columns tables filters order : Value) : Program Result
  | insert (table values upsertKeys : Value) : Program Int
  | update (table values filters : Value) : Program Int
  | delete (table filters : Value) : Program Int
  /-- Go on with the result of a program. -/
  | andThen {α β : Type} (first : Program α) (next : α → Program β) : Program β
  /-- Catch the error of a program; without a result from the handler it is raised again. -/
  | rescue {α : Type} (body : Program α) (handler : Error → Program (Option α)) : Program α
  /-- Run a block in a level of its own. -/
  | transaction {α : Type} (block : Program α) : Program α

namespace Program

variable {σ : Type}

/-- Run a program on a database. -/
def run
    (db : Database σ)
    {α : Type} :
    Program α →
    Action σ α
  | .result value => return value
  | .raise error _ => throw error
  | .query statement params => db.query statement params
  | .select columns tables filters order => db.select columns tables filters order
  | .insert table values upsertKeys => db.insert table values upsertKeys
  | .update table values filters => db.update table values filters
  | .delete table filters => db.delete table filters
  | .andThen first next => do
      let value ← first.run db
      (next value).run db
  | .rescue body handler => do
      match ← Action.attempt (body.run db) with
      | .ok value => return value
      | .error error =>
          match ← (handler error).run db with
          | some value => return value
          | none => throw error
  | .transaction block => db.transaction (block.run db)

theorem balanced_run
    (db : Database σ)
    {α : Type}
    (program : Program α) :
    Balanced (program.run db) := by
  induction program with
  | result value =>
      exact .pure value
  | raise error own =>
      exact .throw own
  | query statement params =>
      exact db.balanced_query statement params
  | select columns tables filters order =>
      exact db.balanced_select columns tables filters order
  | insert table values upsertKeys =>
      exact db.balanced_insert table values upsertKeys
  | update table values filters =>
      exact db.balanced_update table values filters
  | delete table filters =>
      exact db.balanced_delete table filters
  | andThen first next opening closing =>
      exact opening.bind closing
  | rescue body handler attempted handled =>
      rw [run]
      apply Balanced.attempt_bind attempted
      · intro value
        exact .pure value
      · intro error raised
        refine (handled error).bind fun found => ?_
        cases found with
        | some value =>
            exact .pure value
        | none =>
            exact .throw raised
  | transaction block balanced =>
      exact db.balanced_transaction balanced

/--
Every program ends at the depth at which it started, by returning or by raising, and what it
raises is never that a level was to be left and none is open.
-/
theorem depth_kept
    (db : Database σ)
    {α : Type}
    (program : Program α)
    (session : Session σ) :
    ((program.run db).outcome session).2.depth = session.depth ∧
      ∀ error,
        ((program.run db).outcome session).1 = .error error →
        error.kind? ≠ some .transactionState :=
  ⟨(program.balanced_run db).depth session, (program.balanced_run db).raises session⟩

end Program

end QueryComposer.Database
