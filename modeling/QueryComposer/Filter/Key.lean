import QueryComposer.Error.Basic
import QueryComposer.Text.Blank
import QueryComposer.Text.Uppercase

namespace QueryComposer.Filter

/-!
# Decorated keys

A key of a filter, of a row or of an update is a column name that an operator may follow after a
blank. `splitKey` separates the two: the name is the first word, and the operator is the rest in
upper case with single spaces.
-/

/-- The operator of a key that names none. -/
def defaultOperator : String :=
  "="

/-- Split the characters of a key into the column and the operator. -/
def splitKeyChars
    (operator : List Char)
    (key : List Char) :
    List Char × List Char :=
  let (name, rest) := Text.firstWord key
  if name.isEmpty then
    (key, operator)
  else if rest.isEmpty then
    (name, operator)
  else
    (name, Text.upper (Text.collapse rest))

/-- Split a key into the column and the operator, given the operator of a bare key. -/
def splitKeyWith
    (operator : String)
    (key : String) :
    String × String :=
  let (name, found) := splitKeyChars operator.toList key.toList
  (String.ofList name, String.ofList found)

/-- Split a key into the column and the operator. -/
def splitKey (key : String) : String × String :=
  splitKeyWith defaultOperator key

/-- The column of a key. -/
def columnOf (key : String) : String :=
  (splitKey key).1

/-- A blank octet of the ASCII range. -/
def isBlankOctet (octet : UInt8) : Bool :=
  (9 ≤ octet && octet ≤ 13) || octet == 32

/-- Split octets into a column and an operator; octets with an operator are not understood. -/
def splitOctets
    (octets : List UInt8) :
    Except Error (List UInt8 × String) :=
  let trimmed := ((octets.dropWhile isBlankOctet).reverse.dropWhile isBlankOctet).reverse
  if trimmed.isEmpty then
    .ok (octets, defaultOperator)
  else if trimmed.any isBlankOctet then
    .error (.misuse .mixedText)
  else
    .ok (trimmed, defaultOperator)

/-- Split a key of any type into the column and the operator; only texts and octets have them. -/
def splitAnyKey : Value → Except Error (Value × String)
  | .text key => .ok (.text (splitKey key).1, (splitKey key).2)
  | .bytes octets => (splitOctets octets).map fun (name, operator) => (.bytes name, operator)
  | value => .error (.misuse (.notText value.typeName))

end QueryComposer.Filter
