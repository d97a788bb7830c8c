import QueryComposer.Association
import QueryComposer.Log.Event
import QueryComposer.Number.Numeral
import QueryComposer.Schema.Problem
import QueryComposer.Text.Blank
import QueryComposer.Text.Lowercase
import QueryComposer.Text.Uppercase

namespace QueryComposer

/-!
# Settings

Connection parameters and logging options can be taken from the environment. The names of
variables are compared without regard to case; those of connection parameters start with a
common word. Every variable that cannot be read is reported, in the order of the fields.
-/

open Schema (Defect Problem)

/-- What the environment sets. -/
structure Settings where
  logLevel : String
  logToFile : Bool
  logFileDir : String
  driver : String
  dsn : Option String
  host : Option String
  port : Option Int
  user : Option String
  password : Option String
  dbname : Option String
  charset : Option String
  deriving Repr, DecidableEq

namespace Settings

/-- The start of the names of the variables for connection parameters. -/
def variablePrefix : String :=
  "structured_sql_"

/-- The variables with lower-case names; of two spellings of a name the later one counts. -/
def lowered (environment : List (String × String)) : List (String × String) :=
  Association.ofPairs (environment.map fun (name, value) =>
    (String.ofList (Text.lower name.toList), value))

/-- The truth value that a word stands for, in any case. -/
def truthOf (word : String) : Except Defect Bool :=
  let s := String.ofList (Text.lower word.toList)
  if ["1", "true", "t", "yes", "y", "on"].contains s then
    .ok true
  else if ["0", "false", "f", "no", "n", "off"].contains s then
    .ok false
  else
    .error .notBooleanText

/-- The integer that a text stands for, or what is wrong with the text. -/
def numberOf (text : String) : Except Defect Int :=
  (Numeral.integer text).mapError fun
    | .malformed => .notIntegerText
    | .tooLong => .tooLarge

/-- The variable of a logging option. -/
def option
    (env : List (String × String))
    (name : String) :
    Option String :=
  Association.get? env (String.ofList (Text.lower name.toList))

/-- The variable of a connection parameter. -/
def parameter
    (env : List (String × String))
    (name : String) :
    Option String :=
  Association.get? env (variablePrefix ++ name)

/-- Read a variable that need not be given; a text without a meaning is a problem. -/
def read
    {α : Type}
    (field : String)
    (meaning : String → Except Defect α)
    (given : Option String) :
    Except Problem (Option α) :=
  match given with
  | none => .ok none
  | some text =>
      match meaning text with
      | .ok value => .ok (some value)
      | .error defect => .error ⟨[.field field], defect⟩

/-- The settings of an environment, or the problems of its variables. -/
def load (environment : List (String × String)) : Except (List Problem) Settings :=
  let env := lowered environment
  let normalizedLevel := fun s : String => String.ofList (Text.upper (Text.trim s.toList))
  let normalizedDriver := fun s : String => String.ofList (Text.lower (Text.trim s.toList))
  let logToFile := read "LOG_TO_FILE" truthOf (option env "LOG_TO_FILE")
  let port := read "port" numberOf (parameter env "port")
  match logToFile, port with
  | .ok logToFile, .ok port =>
      .ok {
        logLevel := ((option env "LOG_LEVEL").map normalizedLevel).getD "INFO"
        logToFile := logToFile.getD false
        logFileDir := (option env "LOG_FILE_DIR").getD "logs"
        driver := ((parameter env "driver").map normalizedDriver).getD "sqlite"
        dsn := parameter env "dsn"
        host := parameter env "host"
        port := port
        user := parameter env "user"
        password := parameter env "password"
        dbname := parameter env "dbname"
        charset := parameter env "charset" }
  | .error problem, .error other => .error [problem, other]
  | .error problem, .ok _
  | .ok _, .error problem => .error [problem]

/-- The severity from which on events are logged, or what else the configured name stands for. -/
def logThreshold (settings : Settings) : Value :=
  Log.valueOfName settings.logLevel

/-- The connection parameters that are set. -/
def connectionParams (settings : Settings) : List (String × Value) :=
  let text (name : String) (value : Option String) : List (String × Value) :=
    match value with
    | some s => [(name, .text s)]
    | none => []
  let number (name : String) (value : Option Int) : List (String × Value) :=
    match value with
    | some n => [(name, .int n)]
    | none => []
  [("driver", .text settings.driver)] ++ text "dsn" settings.dsn ++ text "host" settings.host ++
    number "port" settings.port ++ text "user" settings.user ++
    text "password" settings.password ++ text "dbname" settings.dbname ++
    text "charset" settings.charset

end Settings

end QueryComposer
