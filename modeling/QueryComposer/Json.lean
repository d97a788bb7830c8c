import QueryComposer.Error.Basic

namespace QueryComposer

/-!
# Plain data

Log events and error reports are plain data: null, truth values, numbers, texts, arrays and
objects. A value of another type is written as a message would show it.

Integers are written with all of their digits, as numbers and as names of members: the bound
`Numeral.maxLength` on integers that are read is not applied to what is written.
-/

/-- Plain data; the members of an object keep their order. -/
inductive Json where
  | null
  | bool (b : Bool)
  | int (n : Int)
  | float (text : String)
  | text (s : String)
  | array (items : List Json)
  | object (members : List (String × Json))
  deriving Repr, Inhabited

namespace Json

/-- The name of a member for a number with a point. -/
def numeralName : String → String
  | "inf" => "Infinity"
  | "-inf" => "-Infinity"
  | "nan" => "NaN"
  | numeral => numeral

/-- The name of a member for a key of a mapping; not every value can name a member. -/
def memberName : Value → Except Error String
  | .text key => .ok key
  | .int n => .ok (toString n)
  | .bool true => .ok "true"
  | .bool false => .ok "false"
  | .null => .ok "null"
  | .float numeral => .ok (numeralName numeral)
  | key => .error (.misuse (.notJson key))

mutual

/-- A value as plain data; an integer is kept however many digits it has. -/
def ofValue : Value → Except Error Json
  | .null => .ok .null
  | .bool b => .ok (.bool b)
  | .int n => .ok (.int n)
  | .float numeral => .ok (.float numeral)
  | .text s => .ok (.text s)
  | .list items
  | .tuple items => (ofValues items).map .array
  | .map pairs => (ofPairs pairs).map .object
  | value => .ok (.text value.display)

/-- Values as plain data. -/
def ofValues : List Value → Except Error (List Json)
  | [] => .ok []
  | value :: rest => do
      let first ← ofValue value
      let others ← ofValues rest
      return first :: others

/-- The pairs of a mapping as the members of an object. -/
def ofPairs : List (Value × Value) → Except Error (List (String × Json))
  | [] => .ok []
  | (key, value) :: rest => do
      let name ← memberName key
      let first ← ofValue value
      let others ← ofPairs rest
      return (name, first) :: others

end

end Json

end QueryComposer
