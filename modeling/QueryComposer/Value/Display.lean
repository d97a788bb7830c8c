import QueryComposer.Text.Quoted
import QueryComposer.Value.Basic

namespace QueryComposer

/-!
# Values in messages

`Value.display` shows a value so that its type can be told: texts stand between quotes,
collections between brackets, tagged values after their names. `Value.plain` is the form in
which a value is part of a sentence: a text stands for itself there.

Integers are shown with all of their digits. `Numeral.maxLength` bounds the integers that are read;
that bound is left out here, and no integer is too long to be shown.
-/

/-- A name and its arguments between parentheses. -/
def application
    (name : String)
    (arguments : List String) :
    String :=
  name ++ "(" ++ ", ".intercalate arguments ++ ")"

/-- A tuple; one of a single member has a comma behind it. -/
def tupleDisplay (items : List String) : String :=
  match items with
  | [item] => "(" ++ item ++ ",)"
  | _ => application "" items

namespace Value

mutual

/-- A value as a message shows it; an integer is shown however many digits it has. -/
def display : Value → String
  | .null => "None"
  | .bool true => "True"
  | .bool false => "False"
  | .int n => toString n
  | .float numeral => numeral
  | .text s => Text.quoted s
  | .bytes octets => Text.quotedOctets octets
  | .decimal numeral => application "Decimal" [Text.quoted numeral]
  | .uuid digits => application "UUID" [Text.quoted digits]
  | .date day => application "datetime.date" day.parts
  | .datetime day clock => application "datetime.datetime" (day.parts ++ clock.parts)
  | .time clock => application "datetime.time" clock.parts
  | .foreign _ shown => shown
  | .list items => "[" ++ ", ".intercalate (displayAll items) ++ "]"
  | .tuple items => tupleDisplay (displayAll items)
  | .set [] => "set()"
  | .set items => "\x7b" ++ ", ".intercalate (displayAll items) ++ "\x7d"
  | .map pairs => "\x7b" ++ ", ".intercalate (displayPairs pairs) ++ "\x7d"
  | .column name => application "Column" ["name=" ++ name.display]
  | .connective c => application "BooleanOp" ["operator=" ++ Text.quoted c.keyword]
  | .predicate target operator operand =>
      application "Predicate" [
        "column=" ++ target.display,
        "operator=" ++ operator.display,
        "value=" ++ operand.display]
  | .group entries => application "Group" ["entries=" ++ tupleDisplay (displayAll entries)]
  | .prepared sql driverSql =>
      application "PreparedStatement" [
        "sql=" ++ sql.display,
        "driver_sql=" ++ driverSql.display]

/-- The members of a collection as a message shows them. -/
def displayAll : List Value → List String
  | [] => []
  | value :: rest => value.display :: displayAll rest

/-- The keys and values of a mapping as a message shows them. -/
def displayPairs : List (Value × Value) → List String
  | [] => []
  | (key, value) :: rest => (key.display ++ ": " ++ value.display) :: displayPairs rest

end

/-- A value as part of a sentence. -/
def plain : Value → String
  | .text s => s
  | .decimal numeral => numeral
  | .uuid digits => digits
  | .date day => day.toText
  | .datetime day clock => day.toText ++ " " ++ clock.toText
  | .time clock => clock.toText
  | value => value.display

end Value

end QueryComposer
