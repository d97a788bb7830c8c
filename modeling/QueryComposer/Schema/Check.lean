import QueryComposer.Association
import QueryComposer.Number.Binary
import QueryComposer.Schema.Problem
import QueryComposer.Value.Display
import QueryComposer.Value.Key

namespace QueryComposer.Schema

/-!
# Checking data

A part of a document is checked against what it should be: a text, an integer, one of some
choices, a mapping with such keys and values. A check gives the value of the part, or every
problem that it has.
-/

/-- The value of a checked part, or all the problems that it has. -/
abbrev Checked (α : Type) :=
  Except (List Problem) α

/-- The step to the entry of a key. -/
def keyStep : Value → Step
  | .text s => .field s
  | .int n => if n.natAbs < Nat.pow 2 63 || n == -(Int.pow 2 63) then .number n else .field (toString n)
  | .bool b => .number (if b then 1 else 0)
  | key => .field key.display

/-- A problem of a whole part. -/
def defect
    {α : Type}
    (d : Defect) :
    Checked α :=
  .error [⟨[], d⟩]

/-- The problems that a checked part has. -/
def problemsOf
    {α : Type}
    (checked : Checked α) :
    List Problem :=
  match checked with
  | .ok _ => []
  | .error problems => problems

/-- Check a part under a step. -/
def under
    {α : Type}
    (step : Step)
    (checked : Checked α) :
    Checked α :=
  checked.mapError fun problems => problems.map (·.under step)

/-- A text, or octets that encode one. -/
def checkText : Value → Checked String
  | .text s => .ok s
  | .bytes octets =>
      match String.fromUTF8? ⟨octets.toArray⟩ with
      | some s => .ok s
      | none => defect .notUnicode
  | _ => defect .notText

/-- A text or nothing. -/
def checkOptionalText : Value → Checked (Option String)
  | .null => .ok none
  | value => (checkText value).map some

/-- One of some choices, each under its name. -/
def checkChoice
    {α : Type}
    (choices : List (String × α))
    (value : Value) :
    Checked α :=
  let chosen := match value with
    | .text s => choices.lookup s
    | _ => none
  match chosen with
  | some choice => .ok choice
  | none => defect (.notOneOf (choices.map (·.1)))

/-- The largest magnitude of an integer that a number with a point can be taken for. -/
def integerBound : Nat :=
  Nat.pow 2 63

/-- An integer, or a number that is worth one; octets that encode no text spell none. -/
def checkInteger : Value → Checked Int
  | .int n => .ok n
  | .bool b => .ok (if b then 1 else 0)
  | .float numeral =>
      match (Decimal.ofText? numeral).bind Decimal.toBinary? with
      | none => defect .notFinite
      | some d =>
          match d.toInt? with
          | none => defect .fractional
          | some n => if n.natAbs < integerBound then .ok n else defect .tooLarge
  | .bytes _ => defect .notIntegerText
  | _ => defect .notInteger

/-- Check the keys and values of a mapping, collecting the problems of all of them. -/
def checkPairs
    {α : Type}
    (check : Value → Checked α) :
    List (Value × Value) →
    Checked (List (String × α))
  | [] => .ok []
  | (key, value) :: rest =>
      let checkedKey := under (keyStep key) (under (.field "[key]") (checkText key))
      let checkedValue := under (keyStep key) (check value)
      match checkedKey, checkedValue, checkPairs check rest with
      | .ok name, .ok first, .ok others => .ok ((name, first) :: others)
      | checkedKey, checkedValue, others =>
          .error (problemsOf checkedKey ++ problemsOf checkedValue ++ problemsOf others)

/-- Check a mapping; two keys may be the same text. -/
def checkMap
    {α : Type}
    (check : Value → Checked α) :
    Value →
    Checked (List (String × α))
  | .map pairs => (checkPairs check pairs).map Association.ofPairs
  | _ => defect .notMap

/-- Check a mapping that must not be empty. -/
def checkNonemptyMap
    {α : Type}
    (check : Value → Checked α)
    (value : Value) :
    Checked (List (String × α)) := do
  let pairs ← checkMap check value
  if pairs.isEmpty then defect .tooShort else return pairs

/-- Check a field; one that is left out has the given value, or is missed. -/
def checkField
    {α : Type}
    (fields : List (Value × Value))
    (name : String)
    (check : Value → Checked α)
    (default? : Option α) :
    Checked α :=
  under (.field name) <|
    match Association.get? fields (.text name), default? with
    | some value, _ => check value
    | none, some default => .ok default
    | none, none => defect .missing

end QueryComposer.Schema
