import QueryComposer.Placeholder

namespace QueryComposer

/-!
# Drivers

A driver entry says how statements are written for a database and how a connection to it is
opened: the quote mark of its identifiers, its placeholder style, the statement that starts a
transaction, how autocommit is switched on, and which keyword each connection parameter goes to.
-/

/-- The marks that identifiers can be quoted with. -/
inductive QuoteMark where
  | backtick
  | double
  deriving Repr, DecidableEq

namespace QuoteMark

/-- The mark itself. -/
def text : QuoteMark → String
  | .backtick => "`"
  | .double => "\""

end QuoteMark

/-- How a connection is switched to autocommit. -/
inductive Autocommit where
  | method
  | attribute
  | isolationLevel
  deriving Repr, DecidableEq

namespace Autocommit

/-- The name of a way to switch. -/
def name : Autocommit → String
  | .method => "method"
  | .attribute => "attribute"
  | .isolationLevel => "isolation_level"

end Autocommit

/-- A connection parameter that a registry gives: a text, an integer or nothing. -/
inductive Setting where
  | null
  | int (n : Int)
  | text (s : String)
  deriving Repr, DecidableEq

namespace Setting

/-- A setting as a value. -/
def toValue : Setting → Value
  | .null => .null
  | .int n => .int n
  | .text s => .text s

end Setting

/-- What the library knows of a driver. -/
structure Driver where
  name : String
  module : String
  quoteMark : QuoteMark
  paramStyle : ParamStyle
  beginStatement : String
  autocommit : Autocommit
  dsnKeyword : Option String
  defaults : List (String × Setting)
  keywords : List (String × String)
  deriving Repr, DecidableEq

end QueryComposer
