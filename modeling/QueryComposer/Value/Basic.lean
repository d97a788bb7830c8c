import QueryComposer.Calendar

namespace QueryComposer

/-!
# Values

The arguments of the library are literals of no fixed type: a filter is a mapping, a list or a
tagged entry, a table specification is a text or a list, a parameter is any scalar. `Value` is
the type of all of them.

A mapping keeps the order in which its keys were first written. `isScalar` names the values that
can be bound to a placeholder, `isTruthy` the values that count as given when an argument may be
left out, and `items?` the members of a value that can be walked through.
-/

/-- The two ways to join conditions. -/
inductive Connective where
  | and
  | or
  deriving Repr, DecidableEq

namespace Connective

/-- The word that stands between two conditions. -/
def keyword : Connective → String
  | .and => "AND"
  | .or => "OR"

end Connective

/-- A literal of any type. -/
inductive Value where
  | null
  | bool (b : Bool)
  | int (n : Int)
  | float (text : String)
  | text (s : String)
  | bytes (octets : List UInt8)
  | decimal (text : String)
  | uuid (text : String)
  | date (day : Date)
  | datetime (day : Date) (clock : Clock)
  | time (clock : Clock)
  /-- A value of a type that the library does not know: the name of the type and what shows it. -/
  | foreign (typeName shown : String)
  | list (items : List Value)
  | tuple (items : List Value)
  | set (items : List Value)
  | map (pairs : List (Value × Value))
  /-- A reference to a column, given by its name. -/
  | column (name : Value)
  | connective (c : Connective)
  /-- A condition on a column, none of whose parts has been checked. -/
  | predicate (column operator value : Value)
  /-- A nested filter, whose entries have not been checked. -/
  | group (entries : List Value)
  /-- A statement as it was written and as the driver receives it, neither of which is checked. -/
  | prepared (sql driverSql : Value)
  deriving Repr, Inhabited

namespace Value

/-- A value that can be bound to a placeholder. -/
def isScalar : Value → Bool
  | .null
  | .bool _
  | .int _
  | .float _
  | .text _
  | .bytes _
  | .decimal _
  | .uuid _
  | .date _
  | .datetime _ _
  | .time _ => true
  | _ => false

/-- The numeral is not a spelling of zero. -/
def isNonzeroNumeral (numeral : String) : Bool :=
  match Decimal.ofText? numeral with
  | some d => !d.isZero
  | none => true

/-- A value that counts as given: not null, false, zero or empty. -/
def isTruthy : Value → Bool
  | .null => false
  | .bool b => b
  | .int n => n != 0
  | .float numeral
  | .decimal numeral => isNonzeroNumeral numeral
  | .text s => s != ""
  | .bytes octets => !octets.isEmpty
  | .list items
  | .tuple items
  | .set items => !items.isEmpty
  | .map pairs => !pairs.isEmpty
  | _ => true

/-- The members of a value, in order: the characters of a text, the keys of a mapping. -/
def items? : Value → Option (List Value)
  | .text s => some (s.toList.map fun c => .text c.toString)
  | .bytes octets => some (octets.map fun octet => .int octet.toNat)
  | .list items
  | .tuple items
  | .set items => some items
  | .map pairs => some (pairs.map (·.1))
  | _ => none

/-- The name that messages give to the type of a value. -/
def typeName : Value → String
  | .null => "NoneType"
  | .bool _ => "bool"
  | .int _ => "int"
  | .float _ => "float"
  | .text _ => "str"
  | .bytes _ => "bytes"
  | .decimal _ => "Decimal"
  | .uuid _ => "UUID"
  | .date _ => "date"
  | .datetime _ _ => "datetime"
  | .time _ => "time"
  | .foreign typeName _ => typeName
  | .list _ => "list"
  | .tuple _ => "tuple"
  | .set _ => "set"
  | .map _ => "dict"
  | .column _ => "Column"
  | .connective _ => "BooleanOp"
  | .predicate _ _ _ => "Predicate"
  | .group _ => "Group"
  | .prepared _ _ => "PreparedStatement"

end Value

/-- A statement as it was written and as the driver receives it; both are texts as a rule. -/
structure Prepared where
  sql : Value
  driverSql : Value
  deriving Repr

namespace Prepared

/-- A prepared statement as a literal. -/
def toValue (statement : Prepared) : Value :=
  .prepared statement.sql statement.driverSql

end Prepared

end QueryComposer
