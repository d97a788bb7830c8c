import QueryComposer.Driver.Entry
import QueryComposer.Error.Basic
import QueryComposer.Value.Key

namespace QueryComposer

/-!
# The driver registry

A registry names drivers, in the order in which they were given, and holds connection parameters
that all of them share. `mergedParams` layers the parameters of a connection: those of the
caller go over the defaults of the driver, and these over the shared ones.
-/

/-- The known drivers and the connection parameters that they share. -/
structure Registry where
  drivers : List (String × Driver)
  baseDefaults : List (String × Setting)
  deriving Repr

namespace Registry

/-- The names of the drivers. -/
def names (registry : Registry) : List String :=
  registry.drivers.map (·.1)

/-- The driver of a name. -/
def find?
    (registry : Registry)
    (name : String) :
    Option Driver :=
  Association.get? registry.drivers name

/-- A driver has this name; the name has to be a possible key. -/
def contains
    (registry : Registry)
    (name : Value) :
    Except Error Bool :=
  match name with
  | .text s => .ok (registry.find? s).isSome
  | name => if name.isHashable then .ok false else .error (.misuse (.notHashable name.typeName))

/-- The driver of a name; every other value is refused. -/
def get
    (registry : Registry)
    (name : Value) :
    Except Error Driver :=
  let unknown := Error.driver (.unknown name registry.names)
  match name with
  | .text s =>
      match registry.find? s with
      | some driver => .ok driver
      | none => .error unknown
  | _ => .error unknown

/-- Settings as the pairs of a mapping. -/
def settingPairs (settings : List (String × Setting)) : List (Value × Value) :=
  settings.map fun (name, setting) => (.text name, setting.toValue)

/-- The parameters of a connection: shared ones, those of the driver, those of the caller. -/
def layered
    (registry : Registry)
    (driver : Driver)
    (params : List (Value × Value)) :
    List (Value × Value) :=
  let shared := settingPairs registry.baseDefaults
  Association.merge (Association.merge shared (settingPairs driver.defaults)) params

/-- The key and the value of a pair, which is anything with two members. -/
def pairOf (pair : Value) : Except Error (Value × Value) :=
  match pair.items? with
  | some [key, value] =>
      if key.isHashable then
        .ok (key, value)
      else
        .error (.misuse (.notHashable key.typeName))
  | some _ => .error (.misuse (.notPair pair.typeName))
  | none => .error (.misuse (.notIterable pair.typeName))

/-- The pairs that a mapping has or that the members of another value are. -/
def updatesOf : Value → Except Error (List (Value × Value))
  | .map pairs => .ok pairs
  | updates =>
      match updates.items? with
      | some members => members.mapM pairOf
      | none => .error (.misuse (.notIterable updates.typeName))

/-- The parameters of a connection to the driver of a name. -/
def mergedParams
    (registry : Registry)
    (name : Value)
    (params : Value) :
    Except Error (List (Value × Value)) := do
  let driver ← registry.get name
  let pairs ← updatesOf params
  return registry.layered driver pairs

/-- The part of a module name before its first point. -/
def rootModule (name : String) : String :=
  String.ofList (name.toList.takeWhile (· != '.'))

/-- The first driver whose module has the same root as the given one. -/
def detect?
    (registry : Registry)
    (module : String) :
    Option Driver :=
  (registry.drivers.find? fun (_, driver) =>
    rootModule driver.module == rootModule module).map (·.2)

end Registry

end QueryComposer
