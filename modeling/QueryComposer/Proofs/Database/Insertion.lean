import QueryComposer.Proofs.Database.Balanced
import QueryComposer.Proofs.Database.Conversation
import QueryComposer.Proofs.Statement.Accepted

namespace QueryComposer.Database

/-!
# The conversation of an insertion

Without key columns every row is one statement. With key columns every row has a level of its
own: the level is closed after the row has been inserted, and undone if it could not be. Then a
row that violated a constraint is updated outside of the level, if it can be; any other failure
is raised again, and the rows after it are not touched.
-/

open Connection (Action Script Session)
open Statement (Accepted Replaceable Row RowsOf ScalarKeys)

variable {σ : Type}

/-- The event of an update in place of an insertion can be logged: its keys are texts. -/
theorem upsertEvent_writable
    {table : Value}
    {keys : List Value}
    (isText : ∃ name, table = .text name)
    (areTexts : ∀ key ∈ keys, ∃ name, key = .text name) :
    ∀ field ∈ [("table", table), ("key_columns", .list keys),
        ("event", Value.text "insert.upsert_fallback")],
      Log.Writable field.2 := by
  obtain ⟨name, rfl⟩ := isText
  exact List.forall_mem_cons.mpr
    ⟨Log.writable_text name, List.forall_mem_cons.mpr
      ⟨Log.writable_texts areTexts, List.forall_mem_singleton.mpr (Log.writable_text _)⟩⟩

/-- The event of a completed insertion can be logged. -/
theorem insertEvent_writable
    {table : Value}
    (isText : ∃ name, table = .text name)
    (rows affected : Int) :
    ∀ field ∈ [("table", table), ("rows", .int rows), ("affected_rows", .int affected),
        ("event", Value.text "insert.completed")],
      Log.Writable field.2 := by
  obtain ⟨name, rfl⟩ := isText
  exact List.forall_mem_cons.mpr
    ⟨Log.writable_text name, List.forall_mem_cons.mpr
      ⟨Log.writable_int rows, List.forall_mem_cons.mpr
        ⟨Log.writable_int affected, List.forall_mem_singleton.mpr (Log.writable_text _)⟩⟩⟩

/-- What the rows of an insertion have in common. -/
structure Insertion (σ : Type) where
  db : Database σ
  table : Value
  statement : Prepared
  columns : List String
  keys : List Value
  depth : Nat

namespace Insertion

/-- The level of a row is opened. -/
def opens
    (insertion : Insertion σ)
    (verdict : Except Error (Option Int)) :
    Exchange :=
  ⟨insertion.depth,
    insertion.db.link.prepare
      (opening insertion.db.link.driver.beginStatement insertion.depth),
    [], verdict⟩

/-- A row is inserted at a depth. -/
def inserts
    (insertion : Insertion σ)
    (depth : Nat)
    (params : List Value)
    (answer : Except Error Int) :
    Exchange :=
  ⟨depth, insertion.statement, params, answer.map some⟩

/-- The level of a row is closed. -/
def closes
    (insertion : Insertion σ)
    (verdict : Except Error (Option Int)) :
    Exchange :=
  ⟨insertion.depth + 1, insertion.db.link.prepare (closing insertion.depth), [], verdict⟩

/-- The level of a row is undone. -/
def undoes
    (insertion : Insertion σ)
    (verdict : Except Error (Option Int)) :
    Exchange :=
  ⟨insertion.depth + 1, insertion.db.link.prepare (undoing insertion.depth), [], verdict⟩

/-- The row in the way is updated, outside of the level. -/
def updates
    (insertion : Insertion σ)
    (update : Statement.Composed)
    (answer : Except Error Int) :
    Exchange :=
  ⟨insertion.depth, insertion.db.link.prepare update.sql, update.params, answer.map some⟩

/-- The parameters are the values of the row in the order of the columns. -/
def Binds
    (insertion : Insertion σ)
    (row : Row)
    (params : List Value) : Prop :=
  List.Forall₂ (fun column value => Association.get? row column = some value)
    insertion.columns params

/-- The update in place of the insertion of a row. -/
def Replaces
    (insertion : Insertion σ)
    (row : Row)
    (update : Statement.Composed) : Prop :=
  Statement.upsertUpdate insertion.db.delimiter insertion.table (.map (Statement.toPairs row))
      (.list insertion.keys) =
    .ok (some update)

/-- The conversation about one row, and what comes of it. -/
inductive RowTalk
    (insertion : Insertion σ)
    (row : Row) :
    List Exchange →
    Except Error Int →
    Prop where
  /-- Without key columns the row is inserted as it is. -/
  | plain
      {params : List Value}
      {answer : Except Error Int}
      (keyless : insertion.keys = [])
      (binds : insertion.Binds row params) :
      RowTalk insertion row [insertion.inserts insertion.depth params answer] answer
  /-- The row is inserted in a level of its own, which is closed. -/
  | inserted
      {params : List Value}
      {count : Int}
      (keyed : insertion.keys ≠ [])
      (binds : insertion.Binds row params) :
      RowTalk insertion row
        [insertion.opens (.ok none),
          insertion.inserts (insertion.depth + 1) params (.ok count),
          insertion.closes (.ok none)]
        (.ok count)
  /-- The row violates a constraint: the level is undone, and then the row in its way is updated. -/
  | replaced
      {params : List Value}
      {failure : Connection.Failure}
      {update : Statement.Composed}
      {answer : Except Error Int}
      (keyed : insertion.keys ≠ [])
      (binds : insertion.Binds row params)
      (violates : failure.constraintViolation = true)
      (replaceable : Replaceable row insertion.keys)
      (replaces : insertion.Replaces row update) :
      RowTalk insertion row
        [insertion.opens (.ok none),
          insertion.inserts (insertion.depth + 1) params (.error (.execution failure)),
          insertion.undoes (.ok none),
          insertion.updates update answer]
        answer
  /-- The row fails in another way or cannot be replaced: its failure is raised again. -/
  | refused
      {params : List Value}
      {error : Error}
      (keyed : insertion.keys ≠ [])
      (binds : insertion.Binds row params)
      (final :
        ∀ failure,
          error = .execution failure →
          failure.constraintViolation = true →
          ¬ Replaceable row insertion.keys) :
      RowTalk insertion row
        [insertion.opens (.ok none),
          insertion.inserts (insertion.depth + 1) params (.error error),
          insertion.undoes (.ok none)]
        (.error error)
  /-- A key is none that can be looked up, which shows only after the level has been undone. -/
  | misused
      {params : List Value}
      {failure : Connection.Failure}
      {cause : Misuse}
      (keyed : insertion.keys ≠ [])
      (binds : insertion.Binds row params)
      (violates : failure.constraintViolation = true)
      (unhashable : ∃ key ∈ insertion.keys, key.isHashable = false) :
      RowTalk insertion row
        [insertion.opens (.ok none),
          insertion.inserts (insertion.depth + 1) params (.error (.execution failure)),
          insertion.undoes (.ok none)]
        (.error (.misuse cause))
  /-- The level cannot be opened. -/
  | unopened
      {error : Error}
      (keyed : insertion.keys ≠ []) :
      RowTalk insertion row [insertion.opens (.error error)] (.error error)
  /-- The level of an inserted row cannot be closed. -/
  | unclosed
      {params : List Value}
      {count : Int}
      {error : Error}
      (keyed : insertion.keys ≠ [])
      (binds : insertion.Binds row params) :
      RowTalk insertion row
        [insertion.opens (.ok none),
          insertion.inserts (insertion.depth + 1) params (.ok count),
          insertion.closes (.error error)]
        (.error error)
  /-- The level of a failed row cannot be undone. -/
  | spoiled
      {params : List Value}
      {error failure : Error}
      (keyed : insertion.keys ≠ [])
      (binds : insertion.Binds row params) :
      RowTalk insertion row
        [insertion.opens (.ok none),
          insertion.inserts (insertion.depth + 1) params (.error error),
          insertion.undoes (.error failure)]
        (.error failure)

/-- The conversation about rows in their order: the counts add up until a row fails. -/
inductive RowsTalk
    (insertion : Insertion σ) :
    List Row →
    List Exchange →
    Except Error Int →
    Prop where
  | nil : RowsTalk insertion [] [] (.ok 0)
  | cons
      {row : Row}
      {rest : List Row}
      {first others : List Exchange}
      {count total : Int}
      (talksFirst : insertion.RowTalk row first (.ok count))
      (talksRest : RowsTalk insertion rest others (.ok total)) :
      RowsTalk insertion (row :: rest) (first ++ others) (.ok (count + total))
  | failsLater
      {row : Row}
      {rest : List Row}
      {first others : List Exchange}
      {count : Int}
      {error : Error}
      (talksFirst : insertion.RowTalk row first (.ok count))
      (talksRest : RowsTalk insertion rest others (.error error)) :
      RowsTalk insertion (row :: rest) (first ++ others) (.error error)
  | fails
      {row : Row}
      {rest : List Row}
      {first : List Exchange}
      {error : Error}
      (talksFirst : insertion.RowTalk row first (.error error)) :
      RowsTalk insertion (row :: rest) first (.error error)

section Row

variable
  (insertion : Insertion σ)
  {row : Row}
  {params : List Value}
  {session : Session σ}

/-- The level of a row that failed is undone, and what follows goes on outside of it. -/
theorem rollback_bind_converses
    {error : Error}
    {next : Bool → Action σ Int}
    (keyed : insertion.keys ≠ [])
    (binds : insertion.Binds row params)
    (inside : session.depth = insertion.depth + 1)
    (closing :
      ∀ answer after,
        after.depth = insertion.depth →
        Converses insertion.db (next answer) after fun late =>
          insertion.RowTalk row
            (insertion.opens (.ok none) ::
              insertion.inserts (insertion.depth + 1) params (.error error) ::
                insertion.undoes (.ok none) :: late)) :
    Converses insertion.db (insertion.db.rollback >>= next) session fun late =>
      insertion.RowTalk row
        (insertion.opens (.ok none) ::
          insertion.inserts (insertion.depth + 1) params (.error error) :: late) := by
  refine .move_bind inside (exists_undoing _ _) (fun _ => .spoiled keyed binds) ?_
  intro answer after undone
  have outside := insertion.db.depth_of_rollback undone (by omega)
  rw [inside, Nat.add_sub_cancel] at outside
  exact closing answer after outside

/-- The level of a row that failed for good is undone before the error is raised. -/
theorem rollback_converses
    {error : Error}
    (keyed : insertion.keys ≠ [])
    (binds : insertion.Binds row params)
    (inside : session.depth = insertion.depth + 1)
    (final :
      ∀ failure,
        error = .execution failure →
        failure.constraintViolation = true →
        ¬ Replaceable row insertion.keys) :
    Converses insertion.db
      (insertion.db.rollback >>= fun _ => throw error)
      session
      fun late =>
        insertion.RowTalk row
          (insertion.opens (.ok none) ::
            insertion.inserts (insertion.depth + 1) params (.error error) :: late) := by
  apply insertion.rollback_bind_converses keyed binds inside
  intro answer after outside
  exact .throw (.refused keyed binds final)

/-- After its level has been undone, a row that violated a constraint is updated if it can be. -/
theorem fallback_converses
    {values : Value}
    {rows : List Row}
    {sql : String}
    {failure : Connection.Failure}
    (accepted : Accepted insertion.db.delimiter insertion.table values rows sql)
    (member : row ∈ rows)
    (keyed : insertion.keys ≠ [])
    (scalars : ScalarKeys row insertion.keys)
    (binds : insertion.Binds row params)
    (inside : session.depth = insertion.depth + 1) :
    Converses insertion.db
      (do
        let _ ← insertion.db.rollback
        match ←
          Action.lift (insertion.db.fallback insertion.table row insertion.keys failure) with
        | none => throw (.execution failure)
        | some update =>
            Action.emit {
              level := .info
              logger := loggerName
              fields := [
                ("table", insertion.table),
                ("key_columns", .list insertion.keys),
                ("event", .text "insert.upsert_fallback")] }
            insertion.db.executeComposed update)
      session
      fun late =>
        insertion.RowTalk row
          (insertion.opens (.ok none) ::
            insertion.inserts (insertion.depth + 1) params (.error (.execution failure)) ::
              late) := by
  apply insertion.rollback_bind_converses keyed binds inside
  intro answer after outside
  rcases insertion.db.fallback_cases accepted member keyed scalars failure with
    ⟨update, falls, violates, replaceable, replaces⟩ | ⟨falls, final⟩ |
      ⟨violates, unhashable, cause, misused⟩
  · refine .lift_bind falls ?_
    have areTexts := Statement.texts_of_hasKeys replaceable.1
    refine .emit_bind (upsertEvent_writable accepted.table_eq_text areTexts) fun _ => ?_
    refine .executeCount outside fun answer => ?_
    exact .replaced keyed binds violates replaceable replaces
  · refine .lift_bind falls (.throw ?_)
    refine .refused keyed binds ?_
    intro other same violates
    cases same
    exact final violates
  · have failed :
        (Action.lift
          (insertion.db.fallback insertion.table row insertion.keys failure)).outcome after =
          (.error (.misuse cause), after) := by
      rw [misused]
      rfl
    exact .bind_of_error failed (.silent rfl rfl rfl) (.misused keyed binds violates unhashable)

/-- A row with key columns is inserted or updated by the conversation that the protocol tells. -/
theorem insertOrUpdate_converses
    {values : Value}
    {rows : List Row}
    {sql : String}
    (accepted : Accepted insertion.db.delimiter insertion.table values rows sql)
    (member : row ∈ rows)
    (keyed : insertion.keys ≠ [])
    (scalars : ScalarKeys row insertion.keys)
    (binds : insertion.Binds row params)
    (here : session.depth = insertion.depth) :
    Converses insertion.db
      (insertion.db.insertOrUpdate insertion.table insertion.statement params row insertion.keys)
      session
      (insertion.RowTalk row) := by
  refine .move_bind here (exists_opening _ _) (fun _ => .unopened keyed) ?_
  intro answer inside opened
  have deeper := insertion.db.depth_of_begin opened
  rw [here] at deeper
  rcases inserted : (insertion.db.link.executeCount insertion.statement params).outcome inside with
    ⟨answer, after⟩
  have talksInsertion : Talks insertion.db inside [⟨inside.depth, _, _, _⟩] after :=
    .statement inserted
  have sameDepth := insertion.db.link.executeCount_preserves_depth insertion.statement params inside
  rw [inserted] at sameDepth
  rw [deeper] at talksInsertion
  have within : after.depth = insertion.depth + 1 := sameDepth.trans deeper
  refine .attempt_bind inserted talksInsertion ?_
  cases answer with
  | ok count =>
      refine .move_bind within (exists_closing _ _) (fun _ => .unclosed keyed binds) ?_
      intro answer left closed
      exact .pure (.inserted keyed binds)
  | error error =>
      cases error with
      | execution failure =>
          exact insertion.fallback_converses accepted member keyed scalars binds within
      | _ =>
          exact insertion.rollback_converses keyed binds within (by simp)

end Row

section Rows

variable
  (insertion : Insertion σ)
  {values : Value}
  {rows : List Row}
  {sql : String}

/-- Rows of an accepted insertion are inserted by the conversation that the protocol tells. -/
theorem insertRows_converses
    (accepted : Accepted insertion.db.delimiter insertion.table values rows sql)
    (inOrder : insertion.columns = firstColumns rows)
    (scalars : ∀ row ∈ rows, ScalarKeys row insertion.keys)
    {given : List Row}
    (included : ∀ row ∈ given, row ∈ rows)
    {session : Session σ}
    (here : session.depth = insertion.depth) :
    Converses insertion.db
      (insertion.db.insertRows insertion.table insertion.statement insertion.columns
        insertion.keys given)
      session
      (insertion.RowsTalk given) := by
  induction given generalizing session with
  | nil =>
      exact .pure .nil
  | cons row rest inductionHypothesis =>
      have member := included row List.mem_cons_self
      have binds : insertion.Binds row (rowValues insertion.columns row) := by
        rw [Binds, inOrder]
        exact accepted.rowValues_eq member
      have others :
          ∀ {action : Action σ Int},
            Connection.Preserves Session.depth action →
            Converses insertion.db action session (insertion.RowTalk row) →
            Converses insertion.db
              (do
                let first ← action
                let others ← insertion.db.insertRows insertion.table insertion.statement
                  insertion.columns insertion.keys rest
                return first + others)
              session
              (insertion.RowsTalk (row :: rest)) := by
        intro action keeps talks
        refine talks.bind (fun _ _ => .fails) fun early count talksFirst => ?_
        have talksOthers :=
          inductionHypothesis (fun other inRest => included other (List.mem_cons_of_mem _ inRest))
            ((keeps session).trans here)
        refine talksOthers.bind (fun _ _ => .failsLater talksFirst) fun late total talksRest => ?_
        apply Converses.pure
        rw [List.append_nil]
        exact .cons talksFirst talksRest
      rw [insertRows]
      split
      · next keyless =>
          apply others (insertion.db.link.executeCount_preserves_depth _ _)
          refine .executeCount here fun answer => ?_
          exact .plain (List.isEmpty_iff.mp keyless) binds
      · next keyed =>
          apply others (insertion.db.balanced_insertOrUpdate _ _ _ _ _).depth
          exact insertion.insertOrUpdate_converses accepted member
            (fun none => keyed (List.isEmpty_iff.mpr none)) (scalars row member) binds here

end Rows

end Insertion

/-- The key columns that are named: none, one, or those that are listed. -/
inductive KeysOf : Value → List Value → Prop where
  | none : KeysOf .null []
  | one (name : String) : KeysOf (.text name) [.text name]
  | list (keys : List Value) : KeysOf (.list keys) keys
  | tuple (keys : List Value) : KeysOf (.tuple keys) keys

theorem keyColumns_of_keysOf
    {upsertKeys : Value}
    {keys : List Value}
    (named : KeysOf upsertKeys keys) :
    keyColumns upsertKeys = .ok keys := by
  cases named with
  | none =>
      rfl
  | one name =>
      rfl
  | list =>
      cases keys with
      | nil =>
          rfl
      | cons _ _ =>
          rfl
  | tuple =>
      cases keys with
      | nil =>
          rfl
      | cons _ _ =>
          rfl

/--
An insertion executes the statements that its rows need, in the order of the rows and at the depth
at which it was started, and ends at that depth with what came of the conversation.
-/
theorem insertion_talks
    (db : Database σ)
    {table values upsertKeys : Value}
    {rows : List Row}
    {keys : List Value}
    {sql : String}
    (accepted : Accepted db.delimiter table values rows sql)
    (named : KeysOf upsertKeys keys)
    (scalars : ∀ row ∈ rows, ScalarKeys row keys)
    {session after : Session σ}
    {answer : Except Error Int}
    (made : (db.insert table values upsertKeys).outcome session = (answer, after)) :
    RowsOf values rows ∧
      ∃ exchanges,
        Talks db session exchanges after ∧
          statements after = statements session ++ exchanges.map Exchange.call ∧
          after.depth = session.depth ∧
          Insertion.RowsTalk
            ⟨db, table, db.link.prepare sql, firstColumns rows, keys, session.depth⟩
            rows exchanges answer := by
  let insertion : Insertion σ :=
    ⟨db, table, db.link.prepare sql, firstColumns rows, keys, session.depth⟩
  have talksRows :
      Converses db
        (db.insertRows table (db.link.prepare sql) (firstColumns rows) keys rows)
        session
        (insertion.RowsTalk rows) :=
    insertion.insertRows_converses accepted rfl scalars (fun _ member => member) rfl
  have talks : Converses db (db.insert table values upsertKeys) session
      (insertion.RowsTalk rows) := by
    refine .lift_bind accepted.normalized ?_
    refine .lift_bind accepted.composed ?_
    refine .lift_bind (keyColumns_of_keysOf named) ?_
    refine talksRows.bind (fun _ _ follows => follows) fun early affected follows => ?_
    refine .emit_bind (insertEvent_writable accepted.table_eq_text _ _) fun _ => .pure ?_
    rw [List.append_nil]
    exact follows
  obtain ⟨exchanges, talks, follows⟩ := talks
  have sameDepth := (db.balanced_insert table values upsertKeys).depth session
  rw [made] at talks follows sameDepth
  exact ⟨Statement.rowsOf_of_normalizeRows accepted.normalized, exchanges, talks,
    talks.statements_eq, sameDepth, follows⟩

/-- Two rows that give their columns in different orders, of which duplicates are found. -/
theorem insertion_talks_duplicates :
    let rows : List Row :=
      [[("id", .int 1), ("content", .text "hello")], [("content", .null), ("id", .int 2)]]
    let values := Value.list (rows.map fun row => .map (Statement.toPairs row))
    let session : Session Script := { Session.fresh duplicates with depth := 2 }
    ∃ sql answer after exchanges,
      Accepted scriptedDatabase.delimiter (.text "guestbook") values rows sql ∧
        (∀ row ∈ rows, ScalarKeys row [.text "id"]) ∧
        (scriptedDatabase.insert (.text "guestbook") values (.text "id")).outcome session =
          (answer, after) ∧
        Talks scriptedDatabase session exchanges after ∧
        statements after = statements session ++ exchanges.map Exchange.call ∧
        after.depth = session.depth ∧
        Insertion.RowsTalk
          ⟨scriptedDatabase, .text "guestbook", scriptedDatabase.link.prepare sql,
            firstColumns rows, [.text "id"], session.depth⟩
          rows exchanges answer := by
  intro rows values session
  have composes :
      (Statement.insert scriptedDatabase.delimiter (.text "guestbook")
        (.list ((firstColumns rows).map .text))).isOk = true := by
    decide +kernel
  cases composed : Statement.insert scriptedDatabase.delimiter (.text "guestbook")
      (.list ((firstColumns rows).map .text)) with
  | error error =>
      rw [composed] at composes
      cases composes
  | ok sql =>
      have accepted :
          Accepted scriptedDatabase.delimiter (.text "guestbook") values rows sql :=
        ⟨rfl, composed⟩
      have allScalars : ∀ row ∈ rows, ∀ pair ∈ row, pair.2.isScalar = true := by decide
      have scalars : ∀ row ∈ rows, ScalarKeys row [.text "id"] :=
        fun row member pair inRow _ => allScalars row member pair inRow
      rcases made : (scriptedDatabase.insert (.text "guestbook") values (.text "id")).outcome
        session with ⟨answer, after⟩
      obtain ⟨_, exchanges, talked⟩ :=
        scriptedDatabase.insertion_talks accepted (.one "id") scalars made
      exact ⟨sql, answer, after, exchanges, accepted, scalars, rfl, talked⟩

end QueryComposer.Database
