import QueryComposer.Driver.Registry

namespace QueryComposer.Driver

/-!
# Connection keywords

Connection parameters go to the keywords of the driver. A connection string takes the place of
all parameters but the password, and options are passed on as they are and win over parameters.
-/

/-- The value of a parameter; a missing one is null. -/
def parameter
    (params : List (Value × Value))
    (name : String) :
    Value :=
  (Association.get? params (.text name)).getD .null

/-- The keywords of the parameters that are given. -/
def parameterKeywords
    (keywords : List (String × String))
    (params : List (Value × Value)) :
    List (Value × Value) :=
  Association.ofPairs (keywords.filterMap fun (name, keyword) =>
    match parameter params name with
    | .null => none
    | value => some (.text keyword, value))

/-- The keyword of the password, if the driver has one and a password is given. -/
def passwordKeywords
    (keywords : List (String × String))
    (params : List (Value × Value)) :
    List (Value × Value) :=
  match Association.get? keywords "password", parameter params "password" with
  | none, _
  | _, .null => []
  | some keyword, value => [(.text keyword, value)]

/-- The keywords of a connection string and the password beside it. -/
def dsnKeywords
    (driver : Driver)
    (dsn : Value)
    (params : List (Value × Value)) :
    Except Error (List (Value × Value)) :=
  match driver.dsnKeyword with
  | none => .error (.argument (.dsn driver.name))
  | some keyword =>
      .ok (Association.merge [(.text keyword, dsn)] (passwordKeywords driver.keywords params))

/-- The pairs of the options, which may be left out. -/
def optionPairs (options : Value) : Except Error (List (Value × Value)) :=
  if options.isTruthy then Registry.updatesOf options else .ok []

/-- The keywords that a connection is opened with. -/
def connectKeywords
    (driver : Driver)
    (params : List (Value × Value))
    (options : Value) :
    Except Error (List (Value × Value)) := do
  let dsn := parameter params "dsn"
  let keywords ←
    if dsn.isTruthy then
      dsnKeywords driver dsn params
    else
      pure (parameterKeywords driver.keywords params)
  let given ← optionPairs options
  return Association.merge keywords given

end QueryComposer.Driver
