import QueryComposer.Error.Basic
import QueryComposer.Value.Key

namespace QueryComposer.Redaction

/-!
# Redaction

What is logged is redacted first: the value of a key that looks like a password, a token or a
secret, or that is the name of a connection string, is replaced. Mappings inside mappings are
redacted too.

A key looks sensitive if its first line holds one of the words, in any case; letters that fold
to an ASCII letter count as that letter.
-/

/-- What a sensitive value is replaced with. -/
def mask : String :=
  "[REDACTED]"

/-- The words that make a key sensitive wherever they stand in its first line. -/
def words : List String :=
  ["password", "token", "secret"]

/-- The key that is sensitive as a whole. -/
def wholeWord : String :=
  "dsn"

/-- A letter without its case; the long s and the Kelvin sign fold to ASCII letters. -/
def fold (c : Char) : Char :=
  if c.toNat == 0x17F then
    's'
  else if c.toNat == 0x212A then
    'k'
  else
    c.toLower

/-- The first text occurs somewhere in the second. -/
def occursIn
    (part : List Char) :
    List Char →
    Bool
  | [] => part.isEmpty
  | c :: rest => part.isPrefixOf (c :: rest) || occursIn part rest

/-- A key whose value is not shown. -/
def isSensitiveChars (key : List Char) : Bool :=
  let firstLine := (key.takeWhile (· != '\n')).map fold
  let folded := key.map fold
  words.any (fun word => occursIn word.toList firstLine) ||
    folded == wholeWord.toList || folded == wholeWord.toList ++ ['\n']

/-- A key whose value is not shown. -/
def isSensitive (key : String) : Bool :=
  isSensitiveChars key.toList

mutual

/-- Redact a value: only mappings have anything to redact. -/
def redactValue : Value → Except Error Value
  | .map pairs => (redactPairs pairs).map .map
  | value => .ok value

/-- Redact a mapping; every key has to be a text. -/
def redactPairs : List (Value × Value) → Except Error (List (Value × Value))
  | [] => .ok []
  | (.text key, value) :: rest => do
      let shown ← if isSensitive key then pure (.text mask) else redactValue value
      let others ← redactPairs rest
      return (.text key, shown) :: others
  | (key, _) :: _ => .error (.misuse (.fieldNotText key))

end

/-- Redact an argument, which has to be a mapping. -/
def redact : Value → Except Error (List (Value × Value))
  | .map pairs => redactPairs pairs
  | value => .error (.misuse (.notMap value.typeName))

end QueryComposer.Redaction
