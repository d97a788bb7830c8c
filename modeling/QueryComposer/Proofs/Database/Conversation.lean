import QueryComposer.Connection.Scripted
import QueryComposer.Database.Statement
import QueryComposer.Proofs.Database.Move

namespace QueryComposer.Database

/-!
# Conversations with a backend

A conversation is the list of the statements that were executed, each with the depth at which it
was and with what came of it. `Talks` tells that a session was led from one state to another by a
conversation, and `Converses` that an action leads one that follows a given protocol, with one rule
for each of the combinators that actions are made of.

A database whose backend follows a script shows what a statement about every database says about
one.
-/

open Connection (Action Aloof Call Link Session)

variable {σ α β : Type}

/-- A statement that was executed and what came of it; a command affects no number of rows. -/
structure Exchange where
  depth : Nat
  statement : Prepared
  params : List Value
  verdict : Except Error (Option Int)

/-- The call by which a statement reaches the backend, with its values if it has any. -/
def Exchange.call (exchange : Exchange) : Call :=
  .execute exchange.statement.driverSql
    ((some (Connection.Params.positional exchange.params)).filter (·.count != 0))

/-- The call executes a statement. -/
def isExecution : Call → Bool
  | .execute _ _ => true
  | _ => false

/-- The calls of a session that executed a statement. -/
def statements (session : Session σ) : List Call :=
  session.calls.filter isExecution

/-- The session is led to another one by executing the statements of the conversation only. -/
inductive Talks (db : Database σ) : Session σ → List Exchange → Session σ → Prop where
  /-- Nothing is executed, and at most the log has changed. -/
  | silent
      {session after : Session σ}
      (sameBackend : after.backend = session.backend)
      (sameDepth : after.depth = session.depth)
      (sameCalls : after.calls = session.calls) :
      Talks db session [] after
  /-- A statement is executed for the number of its rows. -/
  | statement
      {session after : Session σ}
      {prepared : Prepared}
      {params : List Value}
      {answer : Except Error Int}
      (executed : (db.link.executeCount prepared params).outcome session = (answer, after)) :
      Talks db session [⟨session.depth, prepared, params, answer.map some⟩] after
  /-- A move is made by its command. -/
  | command
      {session after : Session σ}
      {move : Transaction.Move}
      {command : Transaction.Command}
      {answer : Except Error Bool}
      (issues : move.command? session.depth = some command)
      (moved : (db.move move).outcome session = (answer, after)) :
      Talks db session
        [⟨session.depth, db.link.prepare (command.sql db.link.driver.beginStatement), [],
          answer.map fun _ => none⟩]
        after
  | append
      {session between after : Session σ}
      {early late : List Exchange}
      (opening : Talks db session early between)
      (closing : Talks db between late after) :
      Talks db session (early ++ late) after

theorem aloof_statements : Aloof (statements : Session σ → List Call) where
  backend _ _ := rfl
  lastError _ _ := rfl
  records _ _ := rfl
  closing session := by
    rw [statements, List.filter_append]
    exact List.append_nil _

/-- Executing a statement for its count adds it to the statements of the session. -/
theorem statements_of_executeCount
    (link : Link σ)
    (prepared : Prepared)
    (params : List Value)
    (session : Session σ) :
    statements ((link.executeCount prepared params).outcome session).2 =
      statements session ++
        [.execute prepared.driverSql
          ((some (Connection.Params.positional params)).filter (·.count != 0))] := by
  rw [link.executeCount_view aloof_statements, statements, List.filter_append]
  rfl

/-- Issuing a command adds it to the statements of the session. -/
theorem statements_of_issue
    (link : Link σ)
    (command : Transaction.Command)
    (session : Session σ) :
    statements ((link.issue command).outcome session).2 =
      statements session ++
        [.execute (link.prepare (command.sql link.driver.beginStatement)).driverSql none] := by
  have counted := statements_of_executeCount link
    (link.prepare (command.sql link.driver.beginStatement)) [] session
  rw [Link.issue_eq, Action.outcome_bind]
  rcases made : (link.executeCount (link.prepare (command.sql link.driver.beginStatement))
    []).outcome session with ⟨error | count, after⟩
  · rw [made] at counted
    exact counted
  · rw [made] at counted
    exact counted

/-- A move adds its command to the statements of the session. -/
theorem statements_of_move
    (db : Database σ)
    {move : Transaction.Move}
    {command : Transaction.Command}
    {session : Session σ}
    (issues : move.command? session.depth = some command) :
    statements ((db.move move).outcome session).2 =
      statements session ++
        [.execute (db.link.prepare (command.sql db.link.driver.beginStatement)).driverSql none] := by
  by_cases begins : move = .begin
  · subst begins
    have issued := statements_of_issue db.link command session
    rcases made : (db.link.issue command).outcome session with ⟨error | answer, after⟩
    · have failed := db.begin_outcome_of_error issues made
      rw [begin] at failed
      rw [made] at issued
      rw [failed, ← issued]
    · obtain ⟨records, opened⟩ := db.begin_outcome_of_ok issues made
      rw [begin] at opened
      rw [made] at issued
      rw [opened, ← issued]
      rfl
  · obtain ⟨records, left⟩ := db.leave_outcome begins issues
    rw [left, statements_of_issue]
    rfl

/-- The statements of a session are those of its conversation, in their order. -/
theorem Talks.statements_eq
    {db : Database σ}
    {session after : Session σ}
    {exchanges : List Exchange}
    (talks : Talks db session exchanges after) :
    statements after = statements session ++ exchanges.map Exchange.call := by
  induction talks with
  | silent _ _ sameCalls =>
      rw [statements, sameCalls, List.map_nil, List.append_nil]
      rfl
  | @statement session after prepared params answer executed =>
      have counted := statements_of_executeCount db.link prepared params session
      rw [executed] at counted
      exact counted
  | command issues moved =>
      have issued := db.statements_of_move issues
      rw [moved] at issued
      exact issued
  | append _ _ opening closing =>
      rw [closing, opening, List.map_append, List.append_assoc]

/-- The text that opens a level at a depth. -/
def opening (beginStatement : String) : Nat → String
  | 0 => beginStatement
  | depth + 1 => "SAVEPOINT LEVEL" ++ toString (depth + 1)

/-- The text that closes the level that was opened at a depth. -/
def closing : Nat → String
  | 0 => "COMMIT"
  | depth + 1 => "RELEASE SAVEPOINT LEVEL" ++ toString (depth + 1)

/-- The text that undoes the level that was opened at a depth. -/
def undoing : Nat → String
  | 0 => "ROLLBACK"
  | depth + 1 => "ROLLBACK TO SAVEPOINT LEVEL" ++ toString (depth + 1)

/-- A savepoint is named in one word after what is done with it. -/
theorem append_savepointName
    {word text : String}
    (joined : word ++ "LEVEL" = text)
    (level : Nat) :
    word ++ Transaction.savepointName level = text ++ toString level := by
  rw [Transaction.savepointName, ← String.append_assoc, joined]

theorem exists_opening
    (beginStatement : String)
    (depth : Nat) :
    ∃ command : Transaction.Command,
      Transaction.Move.begin.command? depth = some command ∧
        command.sql beginStatement = opening beginStatement depth := by
  cases depth with
  | zero =>
      exact ⟨.begin, rfl, rfl⟩
  | succ depth =>
      exact ⟨.savepoint (depth + 1), rfl, append_savepointName (by decide) _⟩

theorem exists_closing
    (beginStatement : String)
    (depth : Nat) :
    ∃ command : Transaction.Command,
      Transaction.Move.commit.command? (depth + 1) = some command ∧
        command.sql beginStatement = closing depth := by
  cases depth with
  | zero =>
      exact ⟨.commit, rfl, rfl⟩
  | succ depth =>
      exact ⟨.release (depth + 1), rfl, append_savepointName (by decide) _⟩

theorem exists_undoing
    (beginStatement : String)
    (depth : Nat) :
    ∃ command : Transaction.Command,
      Transaction.Move.rollback.command? (depth + 1) = some command ∧
        command.sql beginStatement = undoing depth := by
  cases depth with
  | zero =>
      exact ⟨.rollback, rfl, rfl⟩
  | succ depth =>
      exact ⟨.rollbackTo (depth + 1), rfl, append_savepointName (by decide) _⟩

/-- A move is one exchange, with the text of the command that it has at its depth. -/
theorem talks_move
    (db : Database σ)
    {move : Transaction.Move}
    {session after : Session σ}
    {answer : Except Error Bool}
    {depth : Nat}
    {text : String}
    (here : session.depth = depth)
    (commands :
      ∃ command : Transaction.Command,
        move.command? depth = some command ∧ command.sql db.link.driver.beginStatement = text)
    (moved : (db.move move).outcome session = (answer, after)) :
    Talks db session [⟨depth, db.link.prepare text, [], answer.map fun _ => none⟩] after := by
  obtain ⟨command, issues, rfl⟩ := commands
  subst here
  exact .command issues moved

/-- An action leads a conversation that follows the protocol together with what comes of it. -/
def Converses
    (db : Database σ)
    (action : Action σ α)
    (session : Session σ)
    (protocol : List Exchange → Except Error α → Prop) : Prop :=
  ∃ exchanges,
    Talks db session exchanges (action.outcome session).2 ∧
      protocol exchanges (action.outcome session).1

namespace Converses

variable
  {db : Database σ}
  {session after : Session σ}
  {early : List Exchange}
  {protocol : List Exchange → Except Error β → Prop}

/-- What follows a success goes on with the conversation. -/
theorem bind_of_ok
    {first : Action σ α}
    {next : α → Action σ β}
    {result : α}
    (made : first.outcome session = (.ok result, after))
    (talks : Talks db session early after)
    (closing : Converses db (next result) after fun late => protocol (early ++ late)) :
    Converses db (first >>= next) session protocol := by
  obtain ⟨late, talksOn, follows⟩ := closing
  refine ⟨early ++ late, ?_, ?_⟩
  · rw [Action.outcome_bind_of_ok made]
    exact talks.append talksOn
  · rw [Action.outcome_bind_of_ok made]
    exact follows

/-- A failure ends the conversation. -/
theorem bind_of_error
    {first : Action σ α}
    {next : α → Action σ β}
    {error : Error}
    (made : first.outcome session = (.error error, after))
    (talks : Talks db session early after)
    (ends : protocol early (.error error)) :
    Converses db (first >>= next) session protocol := by
  refine ⟨early, ?_, ?_⟩
  · rw [Action.outcome_bind_of_error made]
    exact talks
  · rw [Action.outcome_bind_of_error made]
    exact ends

/-- The conversation of an action goes on with that of what follows, unless the action fails. -/
theorem bind
    {first : Action σ α}
    {next : α → Action σ β}
    {opening : List Exchange → Except Error α → Prop}
    (begins : Converses db first session opening)
    (onError : ∀ early error, opening early (.error error) → protocol early (.error error))
    (onResult :
      ∀ early result,
        opening early (.ok result) →
        Converses db (next result) (first.outcome session).2 fun late => protocol (early ++ late)) :
    Converses db (first >>= next) session protocol := by
  obtain ⟨early, talks, follows⟩ := begins
  rcases made : first.outcome session with ⟨error | result, after⟩
  · rw [made] at talks follows
    exact .bind_of_error made talks (onError early error follows)
  · rw [made] at talks follows onResult
    exact .bind_of_ok made talks (onResult early result follows)

/-- What follows an attempt goes on with the conversation, whatever came of it. -/
theorem attempt_bind
    {action : Action σ α}
    {next : Except Error α → Action σ β}
    {outcome : Except Error α}
    (made : action.outcome session = (outcome, after))
    (talks : Talks db session early after)
    (closing : Converses db (next outcome) after fun late => protocol (early ++ late)) :
    Converses db (action.attempt >>= next) session protocol := by
  have attempted : action.attempt.outcome session = (.ok outcome, after) := by
    rw [Action.outcome_attempt, made]
  exact .bind_of_ok attempted talks closing

/-- Nothing is executed for the sake of a computation. -/
theorem lift_bind
    {computed : Except Error α}
    {next : α → Action σ β}
    {result : α}
    (succeeds : computed = .ok result)
    (closing : Converses db (next result) session protocol) :
    Converses db (Action.lift computed >>= next) session protocol := by
  subst succeeds
  exact .bind_of_ok rfl (.silent rfl rfl rfl) closing

/-- Nothing is executed for an event that can be logged. -/
theorem emit_bind
    {event : Log.Event}
    {next : Unit → Action σ β}
    (writable : ∀ field ∈ event.fields, Log.Writable field.2)
    (closing : ∀ records, Converses db (next ()) { session with records := records } protocol) :
    Converses db (Action.emit event >>= next) session protocol := by
  obtain ⟨records, logged⟩ := Action.emit_outcome writable session
  exact .bind_of_ok logged (.silent rfl rfl rfl) (closing records)

theorem pure
    {result : β}
    (ends : protocol [] (.ok result)) :
    Converses db (Pure.pure result) session protocol :=
  ⟨[], .silent rfl rfl rfl, ends⟩

theorem throw
    {error : Error}
    (ends : protocol [] (.error error)) :
    Converses db (MonadExcept.throw error) session protocol :=
  ⟨[], .silent rfl rfl rfl, ends⟩

/-- A move is one exchange, and what follows goes on if its command succeeds. -/
theorem move_bind
    {move : Transaction.Move}
    {next : Bool → Action σ β}
    {depth : Nat}
    {text : String}
    (here : session.depth = depth)
    (commands :
      ∃ command : Transaction.Command,
        move.command? depth = some command ∧ command.sql db.link.driver.beginStatement = text)
    (onError :
      ∀ error, protocol [⟨depth, db.link.prepare text, [], .error error⟩] (.error error))
    (onAnswer :
      ∀ answer after,
        (db.move move).outcome session = (.ok answer, after) →
        Converses db (next answer) after fun late =>
          protocol (⟨depth, db.link.prepare text, [], .ok none⟩ :: late)) :
    Converses db (db.move move >>= next) session protocol := by
  rcases made : (db.move move).outcome session with ⟨error | answer, after⟩
  · exact .bind_of_error made (db.talks_move here commands made) (onError error)
  · exact .bind_of_ok made (db.talks_move here commands made) (onAnswer answer after made)

/-- Executing a statement for its count is one exchange. -/
theorem executeCount
    {prepared : Prepared}
    {params : List Value}
    {depth : Nat}
    {protocol : List Exchange → Except Error Int → Prop}
    (here : session.depth = depth)
    (ends : ∀ answer, protocol [⟨depth, prepared, params, answer.map some⟩] answer) :
    Converses db (db.link.executeCount prepared params) session protocol := by
  subst here
  exact ⟨_, .statement rfl, ends _⟩

end Converses

section Scripted

open Connection (Script)

/-- A backend that finds a duplicate of every row. -/
def duplicates : Script :=
  [⟨"INSERT", none, .fault ⟨.integrityError, [.text "duplicate key"], none, none, none⟩⟩]

/-- A database over a scripted backend. -/
def scriptedDatabase : Database Script where
  link := {
    backend := Connection.scripted
    driver := {
      name := "pgsql"
      module := "psycopg2"
      quoteMark := .double
      paramStyle := .format
      beginStatement := "BEGIN"
      autocommit := .attribute
      dsnKeyword := none
      defaults := []
      keywords := [] }
    knowsIntegrity := true }
  delimiter := "\""

end Scripted

end QueryComposer.Database
