import QueryComposer.Proofs.Database.Conversation
import QueryComposer.Proofs.Statement.Accepted

namespace QueryComposer.Database

/-!
# Refused before anything is sent

A call whose arguments are refused has sent nothing, since its statement is composed before it is
executed. Insertions with key columns compose a second statement only after the first has failed:
for them the values of the key columns have to be scalars, and an empty list among them shows why.
-/

open Connection (Action OfStatement Raises Script Session)
open Statement (Accepted ScalarKeys)

variable {σ α β : Type}

/-- The error is not about an argument. -/
def NotOfArgument (error : Error) : Prop :=
  error.isArgument = false

/-- An action that raises an error about an argument has left the session as it was. -/
def RefusesFirst (action : Action σ α) : Prop :=
  ∀ session error after,
    action.outcome session = (.error error, after) →
    error.isArgument = true →
    after = session

namespace RefusesFirst

/-- An action that raises no such error has none to raise too late. -/
theorem of_raises
    {action : Action σ α}
    (raises : Raises NotOfArgument action) :
    RefusesFirst action := by
  intro session error after failed about
  have other : error.isArgument = false := raises session error (by rw [failed])
  rw [other] at about
  cases about

/-- Arguments may be refused before the rest of an action. -/
theorem lift_bind
    {computed : Except Error α}
    {next : α → Action σ β}
    (closing : ∀ result, computed = .ok result → RefusesFirst (next result)) :
    RefusesFirst (Action.lift computed >>= next) := by
  intro session error after failed about
  cases made : computed with
  | error cause =>
      rw [made, Action.outcome_bind_of_error (Action.outcome_lift _ _)] at failed
      cases failed
      rfl
  | ok result =>
      rw [made, Action.outcome_bind_of_ok (Action.outcome_lift _ _)] at failed
      exact closing result made session error after failed about

/-- What follows may raise anything but such an error. -/
theorem bind
    {first : Action σ α}
    {next : α → Action σ β}
    (opening : RefusesFirst first)
    (closing : ∀ result, Raises NotOfArgument (next result)) :
    RefusesFirst (first >>= next) := by
  intro session error after failed about
  rcases made : first.outcome session with ⟨cause | result, between⟩
  · rw [Action.outcome_bind_of_error made] at failed
    cases failed
    exact opening session error after made about
  · rw [Action.outcome_bind_of_ok made] at failed
    have other : error.isArgument = false := closing result between error (by rw [failed])
    rw [other] at about
    cases about

end RefusesFirst

theorem not_of_argument_of_statement
    {error : Error}
    (raised : OfStatement error) :
    NotOfArgument error :=
  raised.isArgument_eq_false

section Moves

variable (db : Database σ)

/-- A move raises what its command raises, or that there is no level to leave. -/
theorem move_raises (move : Transaction.Move) : Raises NotOfArgument (db.move move) := by
  have arrives : ∀ depth, Raises NotOfArgument (arrive move depth : Action σ Unit) := by
    intro depth
    refine (Raises.modify _).bind fun _ => ?_
    exact (Connection.emit_raises _).mono fun _ => not_of_argument_of_statement
  have issues : ∀ command, Raises NotOfArgument (db.link.issue command) :=
    fun command => (db.link.issue_raises command).mono fun _ => not_of_argument_of_statement
  refine db.move_closed (Raises NotOfArgument) (fun next => Raises.get.bind next) (.throw rfl)
    (fun command depth => ?_) fun command depth => ?_
  · refine (issues command).bind fun answer => ?_
    exact (arrives depth).bind fun _ => .pure answer
  · exact (arrives depth).bind fun _ => issues command

theorem executeCount_raises
    (statement : Prepared)
    (params : List Value) :
    Raises NotOfArgument (db.link.executeCount statement params) :=
  (db.link.executeCount_raises statement params).mono fun _ => not_of_argument_of_statement

/-- Inserting a row raises no error about an argument, unless updating it instead is refused. -/
theorem insertOrUpdate_raises
    (table : Value)
    (statement : Prepared)
    (params : List Value)
    (row : Statement.Row)
    (keys : List Value)
    (falls : ∀ failure, FailsWith NotOfArgument (db.fallback table row keys failure)) :
    Raises NotOfArgument (db.insertOrUpdate table statement params row keys) := by
  refine (db.move_raises .begin).bind fun _ => ?_
  refine (db.executeCount_raises statement params).attempt_bind ?_ ?_
  · intro count
    exact (db.move_raises .commit).bind fun _ => .pure count
  · intro error raised
    cases error with
    | execution failure =>
        refine (db.move_raises .rollback).bind fun _ => ?_
        refine (Raises.lift (falls failure)).bind fun found => ?_
        cases found with
        | none =>
            exact .throw raised
        | some update =>
            refine Raises.bind ?_ fun _ => db.executeCount_raises _ _
            exact (Connection.emit_raises _).mono fun _ => not_of_argument_of_statement
    | _ =>
        exact (db.move_raises .rollback).bind fun _ => .throw raised

end Moves

section Insertion

variable
  (db : Database σ)
  {table values : Value}
  {rows : List Statement.Row}
  {sql : String}

/-- The update of an accepted row with scalar keys is not refused for an argument. -/
theorem fallback_not_of_argument
    (accepted : Accepted db.delimiter table values rows sql)
    {row : Statement.Row}
    (member : row ∈ rows)
    {keys : List Value}
    (nonempty : keys ≠ [])
    (scalars : ScalarKeys row keys)
    (failure : Connection.Failure) :
    FailsWith NotOfArgument (db.fallback table row keys failure) := by
  rcases db.fallback_cases accepted member nonempty scalars failure with
    ⟨update, falls, _⟩ | ⟨falls, _⟩ | ⟨_, _, cause, misused⟩
  · rw [falls]
    exact .ok _
  · rw [falls]
    exact .ok none
  · rw [misused]
    exact .error rfl

/-- Inserting rows raises no error about an argument, if each row can be inserted or updated. -/
theorem insertRows_raises
    (statement : Prepared)
    (columns : List String)
    (keys : List Value)
    (falls :
      keys ≠ [] → ∀ row ∈ rows, ∀ failure,
        FailsWith NotOfArgument (db.fallback table row keys failure)) :
    Raises NotOfArgument (db.insertRows table statement columns keys rows) := by
  refine db.insertRows_closed (Raises NotOfArgument) (.pure 0) (fun opening closing => ?_)
    (fun _ row _ => ?_) fun keyed row member => ?_
  · exact opening.bind fun _ => closing.bind fun _ => .pure _
  · exact db.executeCount_raises statement _
  · exact db.insertOrUpdate_raises table statement _ row keys (falls keyed row member)

end Insertion

/-- A call of a database and its arguments. -/
inductive Request where
  | query (statement params : Value)
  | select (columns tables filters order : Value)
  | insert (table values upsertKeys : Value)
  | update (table values filters : Value)
  | delete (table filters : Value)

namespace Request

/-- Make a call, whatever it returns. -/
def perform
    (db : Database σ) :
    Request →
    Action σ Unit
  | .query statement params => do
      let _ ← db.query statement params
  | .select columns tables filters order => do
      let _ ← db.select columns tables filters order
  | .insert table values upsertKeys => do
      let _ ← db.insert table values upsertKeys
  | .update table values filters => do
      let _ ← db.update table values filters
  | .delete table filters => do
      let _ ← db.delete table filters

/-- An insertion whose rows have scalars in their key columns; any other call. -/
def HasScalarKeys : Request → Prop
  | .insert _ values upsertKeys =>
      ∀ rows keys,
        Statement.normalizeRows values = .ok rows →
        keyColumns upsertKeys = .ok keys →
        ∀ row ∈ rows, ScalarKeys row keys
  | _ => True

/-- A call that is refused for an argument has left the session as it was: nothing was sent. -/
theorem session_eq_of_refused
    (db : Database σ)
    (request : Request)
    (scalars : request.HasScalarKeys)
    {session after : Session σ}
    {error : Error}
    (failed : (request.perform db).outcome session = (.error error, after))
    (about : error.isArgument = true) :
    after = session := by
  suffices refuses : RefusesFirst (request.perform db) from
    refuses session error after failed about
  have executes : ∀ statement params,
      RefusesFirst (db.link.execute statement params) := by
    intro statement params
    apply RefusesFirst.of_raises
    exact (db.link.execute_raises statement params).mono fun _ => not_of_argument_of_statement
  have counts : ∀ statement, RefusesFirst (db.executeComposed statement) :=
    fun statement => .of_raises (db.executeCount_raises _ statement.params)
  cases request with
  | query statement params =>
      refine RefusesFirst.bind ?_ fun _ => .pure ()
      refine RefusesFirst.lift_bind fun prepared _ => ?_
      refine RefusesFirst.lift_bind fun given _ => ?_
      exact executes prepared given
  | select columns tables filters order =>
      refine RefusesFirst.bind ?_ fun _ => .pure ()
      refine RefusesFirst.lift_bind fun statement _ => ?_
      exact executes _ _
  | update table values filters =>
      refine RefusesFirst.bind ?_ fun _ => .pure ()
      refine RefusesFirst.lift_bind fun statement _ => ?_
      exact counts statement
  | delete table filters =>
      refine RefusesFirst.bind ?_ fun _ => .pure ()
      refine RefusesFirst.lift_bind fun statement _ => ?_
      exact counts statement
  | insert table values upsertKeys =>
      refine RefusesFirst.bind ?_ fun _ => .pure ()
      refine RefusesFirst.lift_bind fun rows normalized => ?_
      refine RefusesFirst.lift_bind fun sql composed => ?_
      refine RefusesFirst.lift_bind fun keys named => ?_
      have accepted : Accepted db.delimiter table values rows sql := ⟨normalized, composed⟩
      apply RefusesFirst.of_raises
      refine Raises.bind ?_ fun affected => ?_
      · apply db.insertRows_raises
        intro nonempty row member
        exact db.fallback_not_of_argument accepted member nonempty
          (scalars rows keys normalized named row member)
      · refine Raises.bind ?_ fun _ => .pure affected
        exact (Connection.emit_raises _).mono fun _ => not_of_argument_of_statement

/-- A call was refused for an argument. -/
def isRefused (result : Except Error Unit) : Bool :=
  match result with
  | .ok _ => false
  | .error error => error.isArgument

/-- A row with a scalar key is refused for the name of its table before a level is opened. -/
theorem session_eq_of_refused_table :
    let request :=
      Request.insert (.text "guests;book")
        (.map [(.text "id", .int 1), (.text "content", .list [])]) (.text "id")
    let session : Session Script := { Session.fresh duplicates with depth := 2 }
    request.HasScalarKeys ∧
      ∃ error after,
        (request.perform scriptedDatabase).outcome session = (.error error, after) ∧
          error.isArgument = true ∧ after = session := by
  intro request session
  have scalars : request.HasScalarKeys := by
    intro rows keys normalized named row member
    cases normalized
    cases named
    rw [List.mem_singleton.mp member]
    intro pair inRow isKey
    rcases List.mem_cons.mp inRow with isId | inRow
    · rw [isId]
      rfl
    · rw [List.mem_singleton.mp inRow] at isKey
      have named := Value.text.inj (List.mem_singleton.mp isKey)
      exact absurd named (by decide +kernel)
  have refused : isRefused ((request.perform scriptedDatabase).outcome session).1 = true := by
    decide +kernel
  rcases made : (request.perform scriptedDatabase).outcome session with ⟨error | _, after⟩
  · rw [made] at refused
    exact ⟨scalars, error, after, rfl, refused,
      session_eq_of_refused scriptedDatabase request scalars made refused⟩
  · rw [made] at refused
    cases refused

/--
An empty list in a key column is refused only once the row was rejected as a duplicate: a level
has been opened, the insertion has been sent and the level has been rolled back by then.
-/
theorem refused_after_sending :
    ¬ ∀ (σ : Type) (db : Database σ) (request : Request) (session after : Session σ)
        (error : Error),
          (request.perform db).outcome session = (.error error, after) →
          error.isArgument = true →
          after.calls = session.calls := by
  intro unsent
  let request :=
    Request.insert (.text "guestbook")
      (.map [(.text "tags", .list []), (.text "content", .text "hello")]) (.text "tags")
  let session := Session.fresh duplicates
  have refused : isRefused ((request.perform scriptedDatabase).outcome session).1 = true := by
    decide +kernel
  have sent : ((request.perform scriptedDatabase).outcome session).2.calls.length = 6 := by
    decide +kernel
  rcases made : (request.perform scriptedDatabase).outcome session with ⟨error | _, after⟩
  · rw [made] at refused sent
    have same := unsent Script scriptedDatabase request session after error made refused
    rw [same] at sent
    cases sent
  · rw [made] at refused
    cases refused

end Request

end QueryComposer.Database
