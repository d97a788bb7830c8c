import QueryComposer.Log.Event

namespace QueryComposer.Log

/-!
# Loggers

A logger has a name and fields that are bound to it. What it logs carries the bound fields,
which the fields of the single event override.
-/

/-- A name and the fields bound to it. -/
structure Logger where
  name : String
  bound : List (String × Value)
  deriving Repr

namespace Logger

/-- The logger of a name; the empty name is that of the root. -/
def ofName (name : String) : Logger :=
  ⟨if name == "" then "root" else name, []⟩

/-- The logger that bound fields are given to. -/
def contextName : String :=
  "structured_sql.utils.logging"

/-- The fields of a mapping from texts. -/
def fieldsOf : List (Value × Value) → Except Error (List (String × Value))
  | [] => .ok []
  | (.text name, value) :: rest => do
      let others ← fieldsOf rest
      return (name, value) :: others
  | (key, _) :: _ => .error (.misuse (.keywordNotText key))

/-- Refuse fields that share a name with an argument. -/
def refuseNames
    (names : List String)
    (fields : List (String × Value)) :
    Except Error Unit :=
  match names.find? fun name => fields.any (·.1 == name) with
  | some name => .error (.misuse (.argumentTwice name))
  | none => .ok ()

/-- A logger with the fields of a mapping bound to it. -/
def withContext (pairs : List (Value × Value)) : Except Error Logger := do
  let fields ← fieldsOf pairs
  refuseNames ["self"] fields
  return ⟨contextName, fields⟩

/-- The fields that control how an event is written and are no part of it. -/
def controlFields : List String :=
  ["exc_info", "stack_info", "timestamp"]

/-- The event that a logger makes of a text and fields. -/
def event
    (logger : Logger)
    (level : Level)
    (what : Value)
    (pairs : List (Value × Value)) :
    Except Error Event := do
  let fields ← fieldsOf pairs
  refuseNames ["self", "event", "method_name"] fields
  let named := match what with
    | .null => []
    | text => [("event", text)]
  let all := Association.merge (Association.merge logger.bound fields) named
  return ⟨level, logger.name, all.filter fun field => !controlFields.contains field.1⟩

end Logger

end QueryComposer.Log
