import QueryComposer.Database.Insertion
import QueryComposer.Proofs.Connection.Calls
import QueryComposer.Proofs.Placeholder.Aligned
import QueryComposer.Proofs.Statement.Placed

namespace QueryComposer.Database

/-!
# Parameters of executed statements

Every statement that a database hands to its driver has one placeholder for each of the
parameters that are handed over with it. `Handed` says so of one call; the other lemmas follow the
calls of every operation of a database, whatever the driver answers to them.
-/

open Connection (Action Call Link Params Sends)
open Placeholder (Aligned Plain translate)
open Filter (Bound)

variable {σ : Type}

/-- A call hands a composed text to a driver, with one value for each of its placeholders. -/
inductive Handed (driver : Driver) : Call → Prop where
  | statement
      {sql : String}
      {params : List Value}
      (aligned : Aligned sql params.length) :
      Handed driver
        (.execute
          (.text (translate driver.paramStyle sql))
          ((some (Params.positional params)).filter (·.count != 0)))
  | closing :
      Handed driver .closeCursor

/-- A call hands over the text that starts a transaction, which is the driver's own. -/
def Opens
    (driver : Driver)
    (call : Call) : Prop :=
  call = .execute (.text (translate driver.paramStyle driver.beginStatement)) none

/-- A call of an insertion, which may run in a transaction of its own. -/
def Issued
    (driver : Driver)
    (call : Call) : Prop :=
  Opens driver call ∨ Handed driver call

/-- The database of a connection whose identifiers are quoted with a mark. -/
def quoting
    (link : Link σ)
    (mark : QuoteMark) :
    Database σ :=
  ⟨link, mark.text⟩

theorem not_isSpecial_of_isDigit
    {c : Char}
    (digit : c.isDigit = true) :
    Placeholder.isSpecial c = false := by
  have others : ("'\"`?%".toList.all fun special => !special.isDigit) = true := by
    decide
  cases special : Placeholder.isSpecial c with
  | false =>
      rfl
  | true =>
      have listed : c ∈ "'\"`?%".toList := by
        simpa [Placeholder.isSpecial, Placeholder.isQuote, or_assoc] using special
      have noDigit := List.all_eq_true.mp others c listed
      rw [digit] at noDigit
      cases noDigit

theorem plain_savepointName (level : Nat) : Plain (Transaction.savepointName level).toList := by
  intro c member
  rw [Transaction.savepointName, String.toList_append, List.mem_append] at member
  rcases member with inWord | inNumber
  · exact (show Plain "LEVEL".toList by decide) c inWord
  · rw [Nat.toString_eq_repr, Nat.toList_repr] at inNumber
    exact not_isSpecial_of_isDigit
      (Nat.isDigit_of_mem_toDigits (by decide) (by decide) inNumber)

/-- Only the command that starts a transaction has a text that may not be plain. -/
theorem plain_of_command
    {command : Transaction.Command}
    (notBegin : command ≠ .begin)
    (beginStatement : String) :
    Plain (command.sql beginStatement).toList := by
  have named :
      ∀ (word : String) (level : Nat),
        Plain word.toList →
        Plain (word ++ Transaction.savepointName level).toList := by
    intro word level plain
    rw [String.toList_append]
    exact plain.append (plain_savepointName level)
  cases command with
  | begin =>
      exact absurd rfl notBegin
  | commit =>
      exact show Plain "COMMIT".toList by decide
  | rollback =>
      exact show Plain "ROLLBACK".toList by decide
  | savepoint level =>
      exact named "SAVEPOINT " level (by decide)
  | release level =>
      exact named "RELEASE SAVEPOINT " level (by decide)
  | rollbackTo level =>
      exact named "ROLLBACK TO SAVEPOINT " level (by decide)

/-- A command is handed over without parameters. -/
theorem issued_of_command
    (driver : Driver)
    (command : Transaction.Command) :
    Issued driver
      (.execute
        (.text (translate driver.paramStyle (command.sql driver.beginStatement)))
        none) := by
  by_cases isBegin : command = .begin
  · left
    rw [isBegin]
    rfl
  · right
    have plain := plain_of_command isBegin driver.beginStatement
    exact @Handed.statement driver _ [] (Aligned.ofPlaced (.ofPlain plain))

theorem arrive_sends
    {allowed : Call → Prop}
    (move : Transaction.Move)
    (depth : Nat) :
    Sends (arrive move depth : Action σ Unit) allowed := by
  refine Sends.bind (Sends.modify ?_) ?_
  · intro _
    rfl
  · intro _
    exact .emit _

section Operations

variable (db : Database σ)

/-- A move hands over the command that it issues, if it issues one. -/
theorem move_sends (move : Transaction.Move) :
    Sends (db.move move) (Issued db.link.driver) := by
  have issues : ∀ command, Sends (db.link.issue command) (Issued db.link.driver) := by
    intro command
    exact db.link.issue_sends command (issued_of_command db.link.driver command) (.inr .closing)
  refine db.move_closed (fun action => Sends action (Issued db.link.driver))
    (fun next => Sends.get.bind next) (.throw _) (fun command depth => ?_) fun command depth => ?_
  · refine (issues command).bind fun answer => ?_
    exact (arrive_sends move depth).bind fun _ => .pure answer
  · exact (arrive_sends move depth).bind fun _ => issues command

/-- A composed statement is handed over with its parameters. -/
theorem executeComposed_sends
    {statement : Statement.Composed}
    (bound : Bound statement.sql statement.params) :
    Sends (db.executeComposed statement) (Handed db.link.driver) :=
  db.link.executeCount_sends _ _ (.statement (Aligned.ofPlaced bound)) .closing

end Operations

section Quoting

variable (link : Link σ) (mark : QuoteMark)

/-- The update that takes the place of an insertion has one placeholder for each parameter. -/
theorem bound_of_fallback
    {table : Value}
    {row : Statement.Row}
    {keys : List Value}
    {failure : Connection.Failure}
    {update : Statement.Composed}
    (succeeded : (quoting link mark).fallback table row keys failure = .ok (some update)) :
    Bound update.sql update.params := by
  unfold fallback at succeeded
  split at succeeded
  · exact Statement.bound_of_upsertUpdate mark succeeded
  · cases succeeded

/-- An insertion that may become an update hands over either of them with its parameters. -/
theorem insertOrUpdate_sends
    (table : Value)
    {sql : String}
    {params : List Value}
    (aligned : Aligned sql params.length)
    (row : Statement.Row)
    (keys : List Value) :
    Sends
      ((quoting link mark).insertOrUpdate table (link.prepare sql) params row keys)
      (Issued link.driver) := by
  unfold insertOrUpdate
  apply ((quoting link mark).move_sends .begin).bind
  intro _
  have inserts : Sends (link.executeCount (link.prepare sql) params) (Issued link.driver) :=
    link.executeCount_sends _ _ (.inr (.statement aligned)) (.inr .closing)
  apply inserts.attempt.bind
  intro outcome
  split
  · apply ((quoting link mark).move_sends .commit).bind
    intro _
    exact .pure _
  · apply ((quoting link mark).move_sends .rollback).bind
    intro _
    apply Sends.lift_bind
    intro update composed
    split
    · exact .throw _
    · apply (Sends.emit _).bind
      intro _
      have bound := bound_of_fallback link mark composed
      exact ((quoting link mark).executeComposed_sends bound).mono fun _ handed => .inr handed
  · apply ((quoting link mark).move_sends .rollback).bind
    intro _
    exact .throw _

/-- Every row is inserted with one value for each of the columns. -/
theorem insertRows_sends
    (table : Value)
    {sql : String}
    {columns : List String}
    (aligned : Aligned sql columns.length)
    (keys : List Value)
    (rows : List Statement.Row) :
    Sends
      ((quoting link mark).insertRows table (link.prepare sql) columns keys rows)
      (Issued link.driver) := by
  have counted : ∀ row, (rowValues columns row).length = columns.length :=
    fun row => List.length_map _
  refine insertRows_closed _ (fun action => Sends action (Issued link.driver)) (.pure 0)
    (fun opening closing => ?_) (fun _ row _ => ?_) fun _ row _ => ?_
  · exact opening.bind fun _ => closing.bind fun _ => .pure _
  · rw [← counted row] at aligned
    exact link.executeCount_sends _ _ (.inr (.statement aligned)) (.inr .closing)
  · rw [← counted row] at aligned
    exact insertOrUpdate_sends link mark table aligned row keys

/-- An insertion has one placeholder for each of its columns. -/
theorem aligned_of_insert
    {table : Value}
    {columns : List String}
    {sql : String}
    (composed : Statement.insert mark.text table (.list (columns.map .text)) = .ok sql) :
    Aligned sql columns.length := by
  obtain ⟨keys, listed, placed⟩ := Statement.placed_of_insert mark composed
  cases listed
  rw [List.length_map] at placed
  exact Aligned.ofPlaced placed

/-- An insertion hands over its rows with one value for each of the columns. -/
theorem insert_sends (table values upsertKeys : Value) :
    Sends ((quoting link mark).insert table values upsertKeys) (Issued link.driver) := by
  unfold Database.insert
  apply Sends.lift_bind
  intro rows _
  apply Sends.lift_bind
  intro sql composed
  apply Sends.lift_bind
  intro keys _
  apply (insertRows_sends link mark table (aligned_of_insert mark composed) keys rows).bind
  intro affected
  apply (Sends.emit _).bind
  intro _
  exact .pure _

/-- A selection hands over its statement with its parameters. -/
theorem select_sends (columns tables filters order : Value) :
    Sends ((quoting link mark).select columns tables filters order) (Handed link.driver) := by
  apply Sends.lift_bind
  intro statement composed
  have aligned := Aligned.ofPlaced (Statement.bound_of_select mark composed)
  exact link.execute_sends _ _ (.statement aligned) .closing

/-- An update hands over its statement with its parameters. -/
theorem update_sends (table values filters : Value) :
    Sends ((quoting link mark).update table values filters) (Handed link.driver) := by
  apply Sends.lift_bind
  intro statement composed
  exact (quoting link mark).executeComposed_sends (Statement.bound_of_update mark composed)

/-- A deletion hands over its statement with its parameters. -/
theorem delete_sends (table filters : Value) :
    Sends ((quoting link mark).delete table filters) (Handed link.driver) := by
  apply Sends.lift_bind
  intro statement composed
  exact (quoting link mark).executeComposed_sends (Statement.bound_of_delete mark composed)

end Quoting

/-- Every statement that can be composed is aligned with its parameters. -/
structure Composes (mark : QuoteMark) : Prop where
  insertion :
    ∀ table columns sql,
      Statement.insert mark.text table columns = .ok sql →
      ∃ keys, Statement.members columns = .ok keys ∧ Aligned sql keys.length
  update :
    ∀ table values filters statement,
      Statement.update mark.text table values filters = .ok statement →
      Aligned statement.sql statement.params.length
  deletion :
    ∀ table filters statement,
      Statement.delete mark.text table filters = .ok statement →
      Aligned statement.sql statement.params.length
  selection :
    ∀ columns tables filters order statement,
      Statement.select mark.text columns tables filters order = .ok statement →
      Aligned statement.sql statement.params.length
  replacement :
    ∀ table row keys statement,
      Statement.upsertUpdate mark.text table row keys = .ok (some statement) →
      Aligned statement.sql statement.params.length

/-- Every operation hands its statements to the driver with their parameters. -/
structure Executes
    (link : Link σ)
    (mark : QuoteMark) : Prop where
  insertion :
    ∀ table values upsertKeys,
      Sends ((quoting link mark).insert table values upsertKeys) (Issued link.driver)
  update :
    ∀ table values filters,
      Sends ((quoting link mark).update table values filters) (Handed link.driver)
  deletion :
    ∀ table filters,
      Sends ((quoting link mark).delete table filters) (Handed link.driver)
  selection :
    ∀ columns tables filters order,
      Sends ((quoting link mark).select columns tables filters order) (Handed link.driver)

/--
Placeholders and parameters agree all the way to the driver.

That holds for every connection and every mark that identifiers can be quoted with: for the
statements as they are composed, and for the calls that an operation sends.
-/
theorem placeholders_agree
    (link : Link σ)
    (mark : QuoteMark) :
    Composes mark ∧ Executes link mark where
  left := {
    insertion := by
      intro table columns sql composed
      obtain ⟨keys, listed, placed⟩ := Statement.placed_of_insert mark composed
      exact ⟨keys, listed, .ofPlaced placed⟩
    update := by
      intro table values filters statement composed
      exact .ofPlaced (Statement.bound_of_update mark composed)
    deletion := by
      intro table filters statement composed
      exact .ofPlaced (Statement.bound_of_delete mark composed)
    selection := by
      intro columns tables filters order statement composed
      exact .ofPlaced (Statement.bound_of_select mark composed)
    replacement := by
      intro table row keys statement composed
      exact .ofPlaced (Statement.bound_of_upsertUpdate mark composed) }
  right := {
    insertion := insert_sends link mark
    update := update_sends link mark
    deletion := delete_sends link mark
    selection := select_sends link mark }

end QueryComposer.Database
