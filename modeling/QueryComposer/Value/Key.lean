import QueryComposer.Association
import QueryComposer.Number.Binary
import QueryComposer.Value.Basic

namespace QueryComposer

/-!
# Values as keys

A value can be a key unless it is, or holds, a list, a set, a mapping or a signaling numeral. Keys
are equal if they are the same value; numbers are compared by what they are worth, so that one,
true and 1.0 are one key, and times by the universal time if both have offsets. A value of an
unknown type is equal to no other.
-/

namespace Value

/-- What a number is worth; nothing for a value that is no finite number. -/
def number? : Value → Option Decimal
  | .bool b => some (Decimal.ofInt (if b then 1 else 0))
  | .int n => some (Decimal.ofInt n)
  | .float numeral => (Decimal.ofText? numeral).bind Decimal.toBinary?
  | .decimal numeral => (Decimal.ofText? numeral).map Decimal.normalize
  | _ => none

/-- An infinite number, and whether it is negative. -/
def infinity? : Value → Option Bool
  | .float "inf" => some false
  | .float "-inf" => some true
  | .decimal "Infinity" => some false
  | .decimal "-Infinity" => some true
  | _ => none

/-- A numeral that is not to be used as a number. -/
def isSignaling (numeral : String) : Bool :=
  "sNaN".toList.isPrefixOf (Decimal.signed numeral.toList).2

mutual

/-- The value can be a key. -/
def isHashable : Value → Bool
  | .list _
  | .set _
  | .map _ => false
  | .decimal numeral => !isSignaling numeral
  | .tuple items => allHashable items
  | .group entries => allHashable entries
  | .column name => name.isHashable
  | .predicate target operator operand =>
      target.isHashable && operator.isHashable && operand.isHashable
  | .prepared sql driverSql => sql.isHashable && driverSql.isHashable
  | _ => true

/-- Every one of the values can be a key. -/
def allHashable : List Value → Bool
  | [] => true
  | value :: rest => value.isHashable && allHashable rest

end

mutual

/-- Two values are the same key. -/
def sameKey : Value → Value → Bool
  | .null, .null => true
  | .text s, .text t => s == t
  | .bytes s, .bytes t => s == t
  | .uuid s, .uuid t => s == t
  | .date d, .date e => d == e
  | .datetime d s, .datetime e t => agreesOn d e s t
  | .time s, .time t => s.agrees t
  | .connective c, .connective d => c == d
  | .tuple items, .tuple others => sameKeys items others
  | .group items, .group others => sameKeys items others
  | .column name, .column other => name.sameKey other
  | .predicate target operator operand, .predicate target' operator' operand' =>
      target.sameKey target' && operator.sameKey operator' && operand.sameKey operand'
  | .prepared sql driverSql, .prepared other driverOther =>
      sql.sameKey other && driverSql.sameKey driverOther
  | left, right =>
      match left.number?, right.number? with
      | some m, some n => m == n
      | none, none => left.infinity?.isSome && left.infinity? == right.infinity?
      | _, _ => false

/-- Two lists of values are the same keys, one by one. -/
def sameKeys : List Value → List Value → Bool
  | [], [] => true
  | value :: rest, other :: others => value.sameKey other && sameKeys rest others
  | _, _ => false

end

instance : BEq Value :=
  ⟨sameKey⟩

/-- Texts are the same key exactly if they are equal. -/
@[simp] theorem text_beq_text
    (s t : String) :
    (Value.text s == Value.text t) = (s == t) := by
  simp [BEq.beq, sameKey]

/-- A text is the same key as no other value. -/
theorem text_beq_iff
    (s : String)
    (value : Value) :
    (Value.text s == value) = true ↔ value = .text s := by
  cases value with
  | text t =>
      rw [text_beq_text, beq_iff_eq, Value.text.injEq, eq_comm]
  | float _
  | decimal _ =>
      simp only [BEq.beq, sameKey, number?, infinity?]
      split <;> simp_all
  | _ =>
      simp [BEq.beq, sameKey, number?, infinity?]

end Value

end QueryComposer
