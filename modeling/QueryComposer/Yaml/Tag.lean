import QueryComposer.Yaml.Number
import QueryComposer.Yaml.Stamp

namespace QueryComposer.Yaml

/-!
# Tags

The tag of a node says what type its value has. A node may give its tag; a plain scalar without
one has the tag that its spelling tells.
-/

/-- The type of the value of a node. -/
inductive Tag where
  | null
  | bool
  | int
  | float
  | binary
  | stamp
  /-- A list of pairs whose first members are different. -/
  | orderedMap
  | pairs
  | set
  | text
  | sequence
  | mapping
  /-- A key whose value is merged into the mapping around it. -/
  | merge
  /-- The key of the value that a mapping has where a scalar is asked for. -/
  | default
  /-- A type that has no values. -/
  | unknown
  deriving Repr, DecidableEq

/-- The spellings of null. -/
def nullWords : List String :=
  ["", "~", "null", "Null", "NULL"]

/-- The spellings of truth values. -/
def truthWords : List String :=
  ["yes", "Yes", "YES", "no", "No", "NO", "true", "True", "TRUE", "false", "False", "FALSE",
    "on", "On", "ON", "off", "Off", "OFF"]

/-- The spellings of other marks, which a plain scalar cannot have by itself. -/
def markWords : List String :=
  ["!", "&", "*"]

namespace Tag

/-- The start of the names of all tags that have a meaning. -/
def namespaceStart : String :=
  "tag:yaml.org,2002:"

/-- The tags by what follows the common start of their names. -/
def names : List (String × Tag) :=
  [("null", .null), ("bool", .bool), ("int", .int), ("float", .float), ("binary", .binary),
    ("timestamp", .stamp), ("omap", .orderedMap), ("pairs", .pairs), ("set", .set),
    ("str", .text), ("seq", .sequence), ("map", .mapping), ("merge", .merge),
    ("value", .default)]

/-- The tag of a full name. -/
def ofName (name : String) : Tag :=
  let named := names.find? fun entry => namespaceStart ++ entry.1 == name
  (named.map Prod.snd).getD .unknown

/-- The text without a line end behind it. -/
def withoutLineEnd (s : List Char) : List Char :=
  if s.getLast? == some '\n' then s.dropLast else s

/-- The tag of a plain scalar. -/
def ofPlain (text : String) : Tag :=
  let s := withoutLineEnd text.toList
  let word := String.ofList s
  if truthWords.contains word then
    .bool
  else if isFloat s then
    .float
  else if isInteger s then
    .int
  else if word == "<<" then
    .merge
  else if nullWords.contains word then
    .null
  else if isStamp s then
    .stamp
  else if word == "=" then
    .default
  else if markWords.contains word then
    .unknown
  else
    .text

end Tag

end QueryComposer.Yaml
