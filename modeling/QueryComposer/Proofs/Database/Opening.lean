import QueryComposer.Proofs.Connection.Opening
import QueryComposer.Proofs.Database.Conversation
import QueryComposer.Proofs.Driver.Named

namespace QueryComposer

/-!
# Opening databases

A database looks its driver up a second time, by the name that the driver has. It finds the driver
that has opened the connection if every driver has the name under which it is found.

Once a connection is there, a database is handed over exactly if the keywords of the connection
can be logged.
-/

open Connection (Action Asks Call Ends Host Script Session)

variable {σ : Type}

/-- The driver that is found under a name has this name. -/
def Registry.FindsByName
    (registry : Registry)
    (name : String) : Prop :=
  ∀ driver, registry.find? name = some driver → driver.name = name

theorem Registry.get_eq_ok_iff
    {registry : Registry}
    {key : Value}
    {driver : Driver} :
    registry.get key = .ok driver ↔
      ∃ name, key = .text name ∧ registry.find? name = some driver := by
  cases key with
  | text name =>
      rw [get]
      cases found : registry.find? name <;> simp [found]
  | _ =>
      simp [get]

/-- A driver that is found by its name is found again by it. -/
theorem Registry.get_name
    {registry : Registry}
    {name : String}
    (findsByName : registry.FindsByName name)
    {driver : Driver}
    (found : registry.get (.text name) = .ok driver) :
    registry.get (.text driver.name) = .ok driver := by
  obtain ⟨_, same, foundName⟩ := get_eq_ok_iff.mp found
  cases same
  rwa [findsByName driver foundName]

/-- The packaged drivers have the names under which they are found. -/
theorem Driver.packaged_findsByName (name : String) : packaged.FindsByName name := by
  have named : ∀ pair ∈ packaged.drivers, pair.2.name = pair.1 := by
    decide
  intro driver found
  exact named _ (Association.mem_of_get? found)

namespace Database

/-- A database over an open connection that has the quote mark of the driver. -/
def handedOver
    (host : Host σ)
    (driver : Driver) :
    Database σ :=
  ⟨host.linked driver, driver.quoteMark.text⟩

section Opening

variable
  (host : Host σ)
  {registry : Registry}
  {params : List (Value × Value)}
  {options : Value}
  {session between : Session σ}

/-- Without a connection there is no database. -/
theorem openWith_outcome_of_error
    {error : Error}
    (failed : (host.connect registry params options).outcome session = (.error error, between)) :
    (openWith host registry (.params params options)).outcome session = (.error error, between) :=
  Action.outcome_bind_of_error failed _

/-- A connection of a driver that is found by its name is handed over. -/
theorem openWith_outcome_of_linked
    {driver : Driver}
    (linked :
      (host.connect registry params options).outcome session = (.ok (host.linked driver), between))
    (found : registry.get (.text driver.name) = .ok driver) :
    ∃ records,
      (openWith host registry (.params params options)).outcome session =
        (.ok (handedOver host driver), { between with records := records }) := by
  have lookedUp :
      (Action.lift (registry.get (.text (host.linked driver).driver.name))).outcome between =
        (.ok driver, between) := by
    rw [Action.outcome_lift, ← found]
    rfl
  unfold openWith
  rw [linkOf, Action.outcome_bind_of_ok linked, Action.outcome_bind_of_ok lookedUp]
  dsimp only
  have writable :
      ∀ field ∈
        (Log.Event.mk .debug loggerName
          [("driver", .text (host.linked driver).driver.name),
            ("quote_delimiter", .text driver.quoteMark.text),
            ("event", .text "db.initialized")]).fields,
        Log.Writable field.2 := by
    simp [Log.writable_text]
  obtain ⟨records, emitted⟩ := Action.emit_outcome writable between
  rw [Action.outcome_bind_of_ok emitted]
  exact ⟨records, rfl⟩

/--
Opening a database ends where opening its connection ends without one; otherwise the database is
handed over, if the driver is found again by its name.
-/
theorem openWith_opens
    (foundAgain :
      ∀ driver,
        registry.get (Driver.parameter params "driver") = .ok driver →
        registry.get (.text driver.name) = .ok driver) :
    (∃ error between,
      Connection.Opens host registry params options session (.error error) between ∧
        (openWith host registry (.params params options)).outcome session =
          (.error error, between)) ∨
      ∃ driver keywords named records,
        Asks registry params options driver keywords named ∧
          Redaction.hasLoggablePairs keywords = true ∧
          (openWith host registry (.params params options)).outcome session =
            (.ok (handedOver host driver), session.linked driver named records) := by
  have ends := host.connect_opens registry params options session
  unfold Ends at ends
  rcases made : (host.connect registry params options).outcome session with ⟨linked, between⟩
  rw [made] at ends
  cases linked with
  | error error =>
      exact .inl ⟨error, between, ends, openWith_outcome_of_error host made⟩
  | ok link =>
      cases ends with
      | @opened driver keywords named asks _ loggable _ =>
          obtain ⟨records, opened⟩ :=
            openWith_outcome_of_linked host made (foundAgain driver asks.found)
          exact .inr ⟨driver, keywords, named, records, asks, loggable, opened⟩

end Opening

/--
Once a driver of the package has opened a connection, a database over this connection is handed
over if the keywords can be logged; otherwise the connection is abandoned with an error.

Keywords can be logged if every key in them that redaction meets is a text, and every other key
can name a member of plain data.
-/
theorem opened_iff_loggable
    (host : Host σ)
    (accepts : host.connectFault = none)
    (params : List (Value × Value))
    (options : Value)
    {session after : Session σ}
    {result : Except Error (Database σ)}
    (outcome :
      (openWith host Driver.packaged (.params params options)).outcome session = (result, after))
    {module : String}
    {named : List (String × Value)}
    {later : List Call}
    (connected : after.calls = session.calls ++ .connect module named :: later) :
    let keywords := named.map fun (name, value) => (Value.text name, value)
    (Redaction.hasLoggablePairs keywords = true →
      ∃ driver,
        Driver.packaged.get (Driver.parameter params "driver") = .ok driver ∧
          result = .ok (handedOver host driver)) ∧
      (Redaction.hasLoggablePairs keywords = false → ∃ error, result = .error error) := by
  intro keywords
  have foundAgain :
      ∀ driver,
        Driver.packaged.get (Driver.parameter params "driver") = .ok driver →
        Driver.packaged.get (.text driver.name) = .ok driver := by
    intro driver found
    obtain ⟨name, isText, _⟩ := Registry.get_eq_ok_iff.mp found
    rw [isText] at found
    exact Registry.get_name (Driver.packaged_findsByName name) found
  rcases openWith_opens host foundAgain with
    ⟨error, between, opens, ended⟩ | ⟨driver, given, shown, records, asks, loggable, ended⟩
  · rw [ended] at outcome
    cases outcome
    cases opens with
    | refused =>
        simp at connected
    | rejected asks faulty =>
        rw [accepts] at faulty
        cases faulty
    | @abandoned driver given shown asks _ unloggable =>
        have same : given = keywords := asks.keywords_eq connected
        rw [← same, unloggable]
        exact ⟨fun loggable => absurd loggable (by simp), fun _ => ⟨error, rfl⟩⟩
  · rw [ended] at outcome
    cases outcome
    have same : given = keywords := asks.keywords_eq connected
    rw [← same, loggable]
    exact ⟨fun _ => ⟨driver, asks.found, rfl⟩, fun unloggable => absurd unloggable (by simp)⟩

/-- A host on which the given modules are there and whose drivers open every connection. -/
def scriptedHost (modules : List String) : Host Script where
  backend := Connection.scripted
  modules := modules
  connectFault := none
  knowsIntegrity := true

/-- The database is handed over. -/
def isOpened (result : Except Error (Database σ)) : Bool :=
  match result with
  | .ok _ => true
  | .error _ => false

/-- The first call asks for a connection, with keywords that can be logged or cannot. -/
def asksLoggably? (session : Session σ) : Option Bool :=
  match session.calls with
  | .connect _ named :: _ =>
      some (Redaction.hasLoggablePairs (named.map fun (name, value) => (.text name, value)))
  | _ => none

theorem exists_of_asksLoggably?
    {session : Session σ}
    {loggable : Bool}
    (asks : asksLoggably? session = some loggable) :
    ∃ module named later,
      session.calls = .connect module named :: later ∧
        Redaction.hasLoggablePairs (named.map fun (name, value) => (.text name, value)) =
          loggable := by
  unfold asksLoggably? at asks
  split at asks
  · next module named later calls =>
      cases asks
      exact ⟨module, named, later, calls, rfl⟩
  · cases asks

/-- A number as a key is no obstacle where the whole mapping is masked. -/
theorem opened_iff_loggable_masked :
    let host := scriptedHost ["sqlite3"]
    let params := [(Value.text "driver", Value.text "sqlite")]
    let options := Value.map [(.text "uri", .map [(.text "password", .map [(.int 3, .null)])])]
    ∃ result after module named later driver,
      host.connectFault = none ∧
        (openWith host Driver.packaged (.params params options)).outcome (Session.fresh []) =
          (result, after) ∧
        after.calls = (Session.fresh ([] : Script)).calls ++ .connect module named :: later ∧
        Driver.packaged.get (.text "sqlite") = .ok driver ∧
        result = .ok (handedOver host driver) := by
  intro host params options
  have asks : asksLoggably?
      ((openWith host Driver.packaged (.params params options)).outcome (Session.fresh [])).2 =
        some true := by
    decide +kernel
  rcases made : (openWith host Driver.packaged (.params params options)).outcome
    (Session.fresh []) with ⟨result, after⟩
  rw [made] at asks
  obtain ⟨module, named, later, connected, loggable⟩ := exists_of_asksLoggably? asks
  obtain ⟨driver, found, opened⟩ :=
    (opened_iff_loggable host rfl params options made connected).1 loggable
  exact ⟨result, after, module, named, later, driver, rfl, rfl, connected, found, opened⟩

/--
Options under a key that is no text are passed on to the driver, and the connection that it opens
is abandoned: its event cannot be redacted.
-/
theorem abandoned_over_key :
    ¬ ∀ (σ : Type) (host : Host σ) (params options : List (String × Value))
        (session after : Session σ) (result : Except Error (Database σ)) (module : String)
        (named : List (String × Value)) (later : List Call),
      let source := Source.params
        (params.map fun (name, value) => (.text name, value))
        (.map (options.map fun (name, value) => (.text name, value)))
      host.connectFault = none →
      (openWith host Driver.packaged source).outcome session = (result, after) →
      after.calls = session.calls ++ .connect module named :: later →
      ∃ db, result = .ok db := by
  intro alwaysOpens
  let host := scriptedHost ["pymysql"]
  let source := Source.params
    [(.text "driver", .text "mysql")]
    (.map [(.text "conv", .map [(.int 3, .text "int")])])
  have asks :
      asksLoggably? ((openWith host Driver.packaged source).outcome (Session.fresh [])).2 =
        some false := by
    decide +kernel
  have abandoned :
      isOpened ((openWith host Driver.packaged source).outcome (Session.fresh [])).1 = false := by
    decide +kernel
  rcases made : (openWith host Driver.packaged source).outcome (Session.fresh []) with
    ⟨result, after⟩
  rw [made] at asks abandoned
  obtain ⟨module, named, later, connected, _⟩ := exists_of_asksLoggably? asks
  obtain ⟨db, opened⟩ := alwaysOpens Script host [("driver", .text "mysql")]
    [("conv", .map [(.int 3, .text "int")])] (Session.fresh []) after result module named later rfl
    made connected
  rw [opened] at abandoned
  cases abandoned

/-- What is opened under the name is a database over the driver, with the defaults of the driver. -/
def OpensOver
    (registry : Registry)
    (name : String)
    (driver : Driver) : Prop :=
  ∀ (σ : Type) (host : Host σ) (params : List (Value × Value)) (options : Value)
      (session after : Session σ) (db : Database σ),
    Driver.parameter params "driver" = .text name →
    (openWith host registry (.params params options)).outcome session = (.ok db, after) →
    db = handedOver host driver ∧
      ∃ keywords named later,
        driver.connectKeywords (registry.layered driver params) options = .ok keywords ∧
          Log.Logger.fieldsOf keywords = .ok named ∧
          after.calls = session.calls ++ .connect driver.module named :: later

/-- What is opened under a name by which a driver is found again is a database over this driver. -/
theorem opensOver_of_findsByName
    {registry : Registry}
    {name : String}
    (findsByName : registry.FindsByName name)
    {driver : Driver}
    (found : registry.get (.text name) = .ok driver) :
    OpensOver registry name driver := by
  intro σ host params options session after db named outcome
  have again := Registry.get_name findsByName found
  have foundAgain :
      ∀ other,
        registry.get (Driver.parameter params "driver") = .ok other →
        registry.get (.text other.name) = .ok other := by
    intro other same
    rw [named, found] at same
    cases same
    exact again
  rcases openWith_opens host foundAgain with
    ⟨error, between, _, ended⟩ | ⟨other, given, shown, records, asks, _, ended⟩
  · rw [ended] at outcome
    cases outcome
  · have same := asks.found
    rw [named, found] at same
    cases same
    rw [ended] at outcome
    cases outcome
    obtain ⟨layers, merged, keywords⟩ := asks.merged
    have layered : layers = registry.layered driver params := by
      rw [Registry.mergedParams, again] at merged
      cases merged
      rfl
    rw [layered] at keywords
    exact ⟨rfl, given, shown, [.autocommit driver.autocommit], keywords, asks.keywordsNamed, rfl⟩

/--
Every name of a registry that was read from a document finds the driver of the entry under this
key. The driver has that name exactly if the entry gives itself no other one, and then whatever
is opened under the name is a database over this driver: with the defaults of the driver, and with
its quote mark.
-/
theorem name_eq_iff_keepsName
    {text : String}
    {registry : Registry}
    (loaded : Driver.load text = .ok registry)
    {name : String}
    (known : name ∈ registry.names) :
    ∃ driver entry,
      registry.get (.text name) = .ok driver ∧
        Driver.HasEntry text name entry ∧
        (driver.name = name ↔ Driver.KeepsName name entry) ∧
        (Driver.KeepsName name entry → OpensOver registry name driver) := by
  obtain ⟨content, entries, read, given, checked⟩ := Driver.checkEntries_of_load loaded
  obtain ⟨driver, found⟩ := Driver.exists_find?_of_mem_names known
  obtain ⟨entry, entered, accepted⟩ := Driver.find?_of_checkEntries checked found
  have distinct := Driver.distinct_of_entriesOf given entered
  have named := Driver.checkText_name_of_checkEntry distinct accepted
  have got : registry.get (.text name) = .ok driver :=
    Registry.get_eq_ok_iff.mpr ⟨name, rfl, found⟩
  have keeps : driver.name = name ↔ Driver.KeepsName name entry := by
    unfold Driver.KeepsName
    cases own : Association.get? entry "name" with
    | none =>
        rw [own] at named
        cases named
        simp
    | some value =>
        rw [own, Option.getD_some] at named
        simp [named]
  refine ⟨driver, entry, got, ⟨content, entries, read, given, entered⟩, keeps, fun kept => ?_⟩
  apply opensOver_of_findsByName _ got
  intro other foundOther
  rw [found] at foundOther
  cases foundOther
  exact keeps.mpr kept

/-- A document whose second driver calls itself by the name of the first one. -/
def borrowedName : String :=
  "drivers:\n" ++
  "  main: \x7bmodule: a, quote_delimiter: '`', paramstyle: qmark\x7d\n" ++
  "  spare: \x7bmodule: b, quote_delimiter: '\"', paramstyle: qmark, name: main\x7d\n"

/-- The keys of an accepted document, each with the name of the driver under it. -/
def namesOf? (loaded : Except Driver.LoadError Registry) : Option (List (String × String)) :=
  match loaded with
  | .ok registry => some (registry.drivers.map fun (key, driver) => (key, driver.name))
  | .error _ => none

theorem load_borrowedName :
    ∃ registry,
      Driver.load borrowedName = .ok registry ∧
        registry.drivers.map (fun (key, driver) => (key, driver.name)) =
          [("main", "main"), ("spare", "main")] := by
  have names :
      namesOf? (Driver.load borrowedName) = some [("main", "main"), ("spare", "main")] := by
    decide +kernel
  cases loaded : Driver.load borrowedName with
  | error _ =>
      rw [loaded] at names
      cases names
  | ok registry =>
      rw [loaded] at names
      exact ⟨registry, rfl, Option.some.inj names⟩

theorem names_of_borrowedName
    {registry : Registry}
    (names :
      registry.drivers.map (fun (key, driver) => (key, driver.name)) =
        [("main", "main"), ("spare", "main")]) :
    registry.names = ["main", "spare"] := by
  have keys := congrArg (List.map Prod.fst) names
  rwa [List.map_map] at keys

/-- A driver under a key of its own that calls itself by another name is found all the same. -/
theorem name_eq_iff_keepsName_borrowed :
    ∃ registry driver entry,
      Driver.load borrowedName = .ok registry ∧
        "spare" ∈ registry.names ∧
        registry.get (.text "spare") = .ok driver ∧
        Driver.HasEntry borrowedName "spare" entry ∧
        (driver.name = "spare" ↔ Driver.KeepsName "spare" entry) := by
  obtain ⟨registry, loaded, names⟩ := load_borrowedName
  have known : "spare" ∈ registry.names := by
    rw [names_of_borrowedName names]
    simp
  obtain ⟨driver, entry, got, entered, keeps, _⟩ := name_eq_iff_keepsName loaded known
  exact ⟨registry, driver, entry, loaded, known, got, entered, keeps⟩

/-- An entry can give its driver a name that is not its key. -/
theorem named_otherwise :
    ¬ ∀ (text : String) (registry : Registry),
      Driver.load text = .ok registry →
      ∀ name ∈ registry.names, ∃ driver,
        registry.get (.text name) = .ok driver ∧ driver.name = name := by
  intro keyed
  obtain ⟨registry, loaded, names⟩ := load_borrowedName
  have known : "spare" ∈ registry.names := by
    rw [names_of_borrowedName names]
    simp
  obtain ⟨driver, got, named⟩ := keyed borrowedName registry loaded "spare" known
  obtain ⟨_, same, found⟩ := Registry.get_eq_ok_iff.mp got
  cases same
  have member := List.mem_map_of_mem (f := fun (key, driver) => (key, Driver.name driver))
    (Association.mem_of_get? found)
  rw [names] at member
  simp [named] at member

end Database

end QueryComposer
