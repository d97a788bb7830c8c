import QueryComposer.Connection.Opening
import QueryComposer.Proofs.Connection.Preserves
import QueryComposer.Proofs.Log.Loggable

namespace QueryComposer.Connection

/-!
# What comes of opening a connection

A connection is asked for once the driver is found and its keywords are known, and nothing happens
before that. The event that tells of the connection is written only after it is there: if the
keywords cannot be logged, then it is not handed over.
-/

open Log (Logger)

variable {σ α β : Type}

/-- A driver is asked for a connection with the keywords that the parameters and options give. -/
structure Asks
    (registry : Registry)
    (params : List (Value × Value))
    (options : Value)
    (driver : Driver)
    (keywords : List (Value × Value))
    (named : List (String × Value)) : Prop where
  found :
    registry.get (Driver.parameter params "driver") = .ok driver
  merged :
    ∃ layers,
      registry.mergedParams (.text driver.name) (.map params) = .ok layers ∧
        driver.connectKeywords layers options = .ok keywords
  keywordsNamed :
    Logger.fieldsOf keywords = .ok named

/-- The session after a driver was asked for a connection. -/
def Session.asked
    (session : Session σ)
    (driver : Driver)
    (named : List (String × Value)) :
    Session σ :=
  { session with calls := session.calls ++ [.connect driver.module named] }

/-- The session after a driver has opened a connection, with what was logged by then. -/
def Session.linked
    (session : Session σ)
    (driver : Driver)
    (named : List (String × Value))
    (records : List Log.Record) :
    Session σ :=
  { session with
    calls := session.calls ++ [.connect driver.module named, .autocommit driver.autocommit]
    records := records }

/-- The connection that a driver has opened. -/
def Host.linked
    (host : Host σ)
    (driver : Driver) :
    Link σ :=
  ⟨host.backend, driver, host.knowsIntegrity⟩

/-- What comes of opening a connection, and the session after it. -/
inductive Opens
    (host : Host σ)
    (registry : Registry)
    (params : List (Value × Value))
    (options : Value)
    (session : Session σ) :
    Except Error (Link σ) → Session σ → Prop where
  /-- No driver is asked, and nothing has happened. -/
  | refused
      (error : Error) :
      Opens host registry params options session (.error error) session
  /-- The driver does not open a connection. -/
  | rejected
      {driver : Driver}
      {keywords : List (Value × Value)}
      {named : List (String × Value)}
      {fault : Fault}
      (asks : Asks registry params options driver keywords named)
      (faulty : host.connectFault = some fault) :
      Opens host registry params options session
        (.error (.fault fault))
        (session.asked driver named)
  /-- There is a connection, and its keywords cannot be logged. -/
  | abandoned
      {driver : Driver}
      {keywords : List (Value × Value)}
      {named : List (String × Value)}
      (asks : Asks registry params options driver keywords named)
      (accepts : host.connectFault = none)
      (unloggable : Redaction.hasLoggablePairs keywords = false)
      (error : Error) :
      Opens host registry params options session
        (.error error)
        (session.asked driver named)
  | opened
      {driver : Driver}
      {keywords : List (Value × Value)}
      {named : List (String × Value)}
      (asks : Asks registry params options driver keywords named)
      (accepts : host.connectFault = none)
      (loggable : Redaction.hasLoggablePairs keywords = true)
      (records : List Log.Record) :
      Opens host registry params options session
        (.ok (host.linked driver))
        (session.linked driver named records)

/-- The outcome of the action and the session after it have the property. -/
def Ends
    (action : Action σ α)
    (session : Session σ)
    (holds : Except Error α → Session σ → Prop) : Prop :=
  holds (action.outcome session).1 (action.outcome session).2

namespace Ends

variable
  {session after : Session σ}
  {holds : Except Error β → Session σ → Prop}

theorem lift_bind
    {computed : Except Error α}
    {next : α → Action σ β}
    (onError : ∀ error, computed = .error error → holds (.error error) session)
    (onResult : ∀ result, computed = .ok result → Ends (next result) session holds) :
    Ends (Action.lift computed >>= next) session holds := by
  unfold Ends
  rw [Action.outcome_bind, Action.outcome_lift]
  cases made : computed with
  | error error =>
      exact onError error made
  | ok result =>
      exact onResult result made

theorem record_bind
    {call : Call}
    {next : Unit → Action σ β}
    (recorded : after = { session with calls := session.calls ++ [call] })
    (closing : Ends (next ()) after holds) :
    Ends (Action.record call >>= next) session holds := by
  subst recorded
  exact closing

/-- What follows an event is done after it has been written. -/
theorem emit_bind
    {event : Log.Event}
    {next : Unit → Action σ β}
    (onError : ∀ error, event.render? = .error error → holds (.error error) session)
    (onWritten :
      ∀ written,
        event.render? = .ok written →
        Ends (next ()) { session with records := session.records ++ [written] } holds) :
    Ends (Action.emit event >>= next) session holds := by
  unfold Action.emit
  rw [bind_assoc]
  exact lift_bind onError onWritten

end Ends

/-- Named keywords are the keywords, each under its text. -/
theorem eq_of_fieldsOf
    {keywords : List (Value × Value)}
    {named : List (String × Value)}
    (fields : Logger.fieldsOf keywords = .ok named) :
    keywords = named.map fun (name, value) => (.text name, value) := by
  induction keywords generalizing named with
  | nil =>
      cases fields
      rfl
  | cons pair rest inductionHypothesis =>
      rcases pair with ⟨key, value⟩
      cases key with
      | text key =>
          rw [Logger.fieldsOf] at fields
          obtain ⟨others, fieldsRest, made⟩ := Success.bind_eq_ok_iff.mp fields
          cases made
          rw [inductionHypothesis fieldsRest]
          rfl
      | _ =>
          cases fields

/-- A driver is asked with the keywords that the call to it shows. -/
theorem Asks.keywords_eq
    {registry : Registry}
    {params : List (Value × Value)}
    {options : Value}
    {driver : Driver}
    {keywords : List (Value × Value)}
    {named shown : List (String × Value)}
    {module : String}
    {before rest later : List Call}
    (asks : Asks registry params options driver keywords named)
    (connected :
      before ++ .connect driver.module named :: rest = before ++ .connect module shown :: later) :
    keywords = shown.map fun (name, value) => (.text name, value) := by
  cases List.append_cancel_left connected
  exact eq_of_fieldsOf asks.keywordsNamed

namespace Host

variable (host : Host σ)

/-- The event of a connection can be written exactly if its shown keywords are plain data. -/
theorem exists_render?_connectedEvent_iff
    (driver : Driver)
    {keywords shown : List (Value × Value)}
    (redacted : Redaction.redactPairs keywords = .ok shown) :
    (∃ written, (connectedEvent driver shown).render? = .ok written) ↔
      Redaction.hasLoggablePairs keywords = true := by
  have again := Redaction.redactPairs_of_redacted redacted
  have fields :
      (connectedEvent driver shown).allFields.map (fun (name, value) => (Value.text name, value)) =
        [(.text "driver", .text driver.name),
          (.text "connect_args", .map shown),
          (.text "event", .text "db.connected"),
          (.text "level", .text "info"),
          (.text "logger", .text loggerName)] := by
    rfl
  have ordinary : Redaction.isSensitive "connect_args" = false := by
    decide +kernel
  have same :
      Redaction.hasLoggablePairs shown = true ↔ Redaction.hasLoggablePairs keywords = true := by
    rw [Redaction.hasLoggablePairs_iff, Redaction.hasLoggablePairs_iff, redacted, again]
  rw [Log.Event.exists_render?_iff, fields, ← same]
  simp [Redaction.hasLoggablePairs, Redaction.isLoggable, Json.isPlain, ordinary]

/-- Looking for a module changes nothing. -/
theorem requireModule_bind
    {name : String}
    {next : Unit → Action σ α}
    {session : Session σ}
    {holds : Except Error α → Session σ → Prop}
    (onError : ∀ error, holds (.error error) session)
    (onResult : Ends (next ()) session holds) :
    Ends (host.requireModule name >>= next) session holds := by
  unfold requireModule
  split
  · exact onError _
  · split
    · exact onError _
    · split
      · exact onResult
      · exact onError _

/-- A connection that is there is handed over exactly if its keywords can be logged. -/
theorem opens_of_asked
    {registry : Registry}
    {params : List (Value × Value)}
    {options : Value}
    {driver : Driver}
    {keywords : List (Value × Value)}
    {named : List (String × Value)}
    (session : Session σ)
    (asks : Asks registry params options driver keywords named)
    (accepts : host.connectFault = none) :
    Ends
      (do
        let shown ← Action.lift (Redaction.redactPairs keywords)
        Action.emit (connectedEvent driver shown)
        host.link driver)
      (session.asked driver named)
      (Opens host registry params options session) := by
  apply Ends.lift_bind
  · intro error unredacted
    refine .abandoned asks accepts ?_ error
    rw [Bool.eq_false_iff]
    intro loggable
    obtain ⟨shown, _, redacted, _⟩ := (Redaction.hasLoggablePairs_iff keywords).mp loggable
    rw [unredacted] at redacted
    cases redacted
  · intro shown redacted
    have written := exists_render?_connectedEvent_iff driver redacted
    apply Ends.emit_bind
    · intro error unwritten
      refine .abandoned asks accepts ?_ error
      rw [Bool.eq_false_iff]
      intro loggable
      obtain ⟨record, rendered⟩ := written.mpr loggable
      rw [unwritten] at rendered
      cases rendered
    · intro record rendered
      have recorded :
          { session.asked driver named with
            calls := (session.asked driver named).calls ++ [.autocommit driver.autocommit]
            records := session.records ++ [record] } =
            session.linked driver named (session.records ++ [record]) := by
        simp [Session.asked, Session.linked]
      refine Ends.record_bind recorded.symm ?_
      exact .opened asks accepts (written.mp ⟨record, rendered⟩) _

/-- Opening a connection comes to one of four ends. -/
theorem connect_opens
    (registry : Registry)
    (params : List (Value × Value))
    (options : Value)
    (session : Session σ) :
    Ends (host.connect registry params options) session
      (Opens host registry params options session) := by
  refine Ends.lift_bind (fun error _ => .refused error) fun driver found => ?_
  refine Ends.lift_bind (fun error _ => .refused error) fun layers merged => ?_
  refine host.requireModule_bind (fun error => .refused error) ?_
  refine Ends.lift_bind (fun error _ => .refused error) fun keywords given => ?_
  refine Ends.lift_bind (fun error _ => .refused error) fun named fields => ?_
  have asks : Asks registry params options driver keywords named :=
    ⟨found, ⟨layers, merged, given⟩, fields⟩
  refine Ends.record_bind (show session.asked driver named = _ from rfl) ?_
  cases faulty : host.connectFault with
  | some fault =>
      exact .rejected asks faulty
  | none =>
      exact host.opens_of_asked session asks faulty

end Host

end QueryComposer.Connection
