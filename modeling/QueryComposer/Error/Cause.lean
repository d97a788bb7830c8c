import QueryComposer.Value.Display

namespace QueryComposer

/-!
# Causes of errors

Each operation has the causes for which it refuses its arguments. A cause keeps what is needed
to describe it, and its `message` puts it into words.
-/

/-- Why a name cannot be quoted. -/
inductive IdentifierError where
  | notText (got : Value)
  | suffix (name : String)
  | malformed (name : String)
  deriving Repr

namespace IdentifierError

/-- The wording of an identifier error. -/
def message : IdentifierError → String
  | .notText got => "Identifier must be a non-empty string, got " ++ got.display
  | .suffix name => "Invalid identifier suffix in " ++ Text.quoted name
  | .malformed name => "Invalid identifier: " ++ Text.quoted name

end IdentifierError

/-- Why a filter cannot be understood or compiled. -/
inductive FilterError where
  | connective (got : Value)
  | looseText (text : String)
  | keyNotText (key : Value)
  | notEntry (typeName : String)
  | notLiteral (typeName : String)
  | empty
  | leadingConnective
  | emptyGroup
  | strayEntry (typeName : String)
  | unsupported (operator column : Value)
  | listOperator (operator : Value)
  | emptyList (column : Value)
  | listMember (column : Value)
  | operand (column : Value) (typeName : String)
  deriving Repr

namespace FilterError

/-- The wording of a filter error. -/
def message : FilterError → String
  | .connective got => "Unknown boolean operator: " ++ got.display
  | .looseText text =>
      "Filter must be a key/value pair or a nested filter, got " ++ Text.quoted text
  | .keyNotText key => "Filter column must be a string, got " ++ key.display
  | .notEntry typeName => "Filter must be a key/value pair or a nested filter, got " ++ typeName
  | .notLiteral typeName => "Filters must be a mapping or a sequence, got " ++ typeName
  | .empty => "Filter must not be empty."
  | .leadingConnective => "Filter must not start with operator."
  | .emptyGroup => "Nested filter must not be empty."
  | .strayEntry typeName => "Filter must be a key/value pair or array, got " ++ typeName
  | .unsupported operator column =>
      "Unsupported filter operator " ++ operator.display ++ " for column " ++ column.display
  | .listOperator operator =>
      "Operator " ++ operator.display ++ " cannot be used with a list of values"
  | .emptyList column => "Value list for column " ++ column.display ++ " must not be empty"
  | .listMember column => "Value list for column " ++ column.display ++ " must contain scalars"
  | .operand column typeName =>
      "Invalid filter value for column " ++ column.display ++ ": " ++ typeName

end FilterError

/-- Why a table specification cannot be compiled. -/
inductive TableError where
  | noTables
  | baseNotText (got : Value)
  | notJoin (got : Value)
  | nameNotText (got : Value)
  | conditionNotMap (table : String) (typeName : String)
  | emptyCondition (table : String)
  | conditionNotColumns (table : String)
  deriving Repr

namespace TableError

/-- The wording of a table error. -/
def message : TableError → String
  | .noTables => "Tables must be a table name or a non-empty list."
  | .baseNotText got => "Base table must be a string, got " ++ got.display
  | .notJoin got => "Joined table must be a table/predicate mapping, got " ++ got.display
  | .nameNotText got => "Joined table name must be a string, got " ++ got.display
  | .conditionNotMap table typeName =>
      "Join predicate for " ++ Text.quoted table ++ " must be a mapping, got " ++ typeName
  | .emptyCondition table => "Join predicate for " ++ Text.quoted table ++ " must not be empty"
  | .conditionNotColumns table =>
      "Join predicate for " ++ Text.quoted table ++ " must map columns to columns"

end TableError

/-- Why another argument is refused. -/
inductive ArgumentError where
  | rowsNotMaps (typeName : String)
  | rowNotMap (index : Nat)
  | rowColumns (index : Nat)
  | columnNotText (got : Value)
  | setOperator (operator column : String)
  | noColumns
  | dsn (driver : String)
  | source
  | statement
  | parameters (typeName : String)
  deriving Repr

namespace ArgumentError

/-- The wording of an argument error. -/
def message : ArgumentError → String
  | .rowsNotMaps typeName => "Values must be a mapping or a list of mappings, got " ++ typeName
  | .rowNotMap index => "Row " ++ toString index ++ " must be a mapping"
  | .rowColumns index => "Row " ++ toString index ++ " columns differ from the first row"
  | .columnNotText got => "Column name must be a string, got " ++ got.display
  | .setOperator operator column =>
      "Unsupported update operator " ++ Text.quoted operator ++ " for column " ++
        Text.quoted column
  | .noColumns => "Select column list must not be empty."
  | .dsn driver => "Driver " ++ Text.quoted driver ++ " does not accept a dsn"
  | .source => "source must be a params mapping, a connection gateway or a DB-API connection"
  | .statement => "statement must be a PreparedStatement object or a string"
  | .parameters typeName =>
      "params must be a scalar, a sequence or a mapping, got " ++ typeName

end ArgumentError

/-- Why no driver can be chosen. -/
inductive DriverError where
  | unknown (name : Value) (known : List String)
  | undetected (typeName : String)
  deriving Repr

namespace DriverError

/-- The wording of a driver error. -/
def message : DriverError → String
  | .unknown name known =>
      "Invalid db driver specified: " ++ name.display ++
        " (expected one of " ++ ", ".intercalate known ++ ")"
  | .undetected typeName => "Cannot determine driver for connection of type " ++ typeName

end DriverError

/-- A value was used in a way that its type has no meaning for. -/
inductive Misuse where
  | notIterable (typeName : String)
  | notHashable (typeName : String)
  | notText (typeName : String)
  | notMap (typeName : String)
  | notPair (typeName : String)
  | notStatement (typeName : String)
  | mixedText
  | keywordNotText (key : Value)
  | fieldNotText (key : Value)
  | notJson (key : Value)
  | relativeModule (name : String)
  | argumentTwice (name : String)
  | argumentMissing (name : String)
  | argumentUnknown (name : String)
  deriving Repr

namespace Misuse

/-- The wording of a misuse. -/
def message : Misuse → String
  | .notIterable typeName => "A value of type " ++ typeName ++ " has no members"
  | .notHashable typeName => "A value of type " ++ typeName ++ " cannot be a key"
  | .notText typeName => "A value of type " ++ typeName ++ " is no text"
  | .notMap typeName => "A value of type " ++ typeName ++ " is no mapping"
  | .notPair typeName => "A value of type " ++ typeName ++ " is no pair"
  | .notStatement typeName => "A value of type " ++ typeName ++ " is no statement"
  | .mixedText => "Blanks cannot be replaced in a string of octets"
  | .keywordNotText key => "A keyword must be a text, got " ++ key.display
  | .fieldNotText key => "A field name must be a text, got " ++ key.display
  | .notJson key => "A JSON key cannot be written for " ++ key.display
  | .relativeModule name => "A module cannot be found by the relative name " ++ Text.quoted name
  | .argumentTwice name => "The argument " ++ name ++ " is given twice"
  | .argumentMissing name => "The argument " ++ name ++ " is missing"
  | .argumentUnknown name => "There is no argument " ++ name

end Misuse

end QueryComposer
