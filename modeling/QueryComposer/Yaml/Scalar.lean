import QueryComposer.Yaml.Tag

namespace QueryComposer.Yaml

/-!
# The values of scalars

A scalar has a value of the type that its tag asks for, or is refused. Binary values are written
with four characters for three octets.
-/

/-- The value of a truth value, in letters of any case. -/
def truth (text : String) : Except Refusal Value :=
  match String.ofList (text.toList.map Char.toLower) with
  | "yes"
  | "true"
  | "on" => .ok (.bool true)
  | "no"
  | "false"
  | "off" => .ok (.bool false)
  | _ => .error .noTruth

/-- The value of a character in the notation of binary values. -/
def sextet? (c : Char) : Option Nat :=
  if 'A' ≤ c && c ≤ 'Z' then
    some (c.toNat - 'A'.toNat)
  else if 'a' ≤ c && c ≤ 'z' then
    some (c.toNat - 'a'.toNat + 26)
  else if c.isDigit then
    some (c.toNat - '0'.toNat + 52)
  else if c == '+' then
    some 62
  else if c == '/' then
    some 63
  else
    none

/-- What was read of a group of four characters: their number, the bits left over, the padding. -/
structure Sextets where
  count : Nat
  rest : Nat
  padding : Nat

/-- The number of characters in a group. -/
def groupSize : Nat :=
  4

/-- The octets of a binary value; a character without a meaning is skipped. -/
def octets? :
    Sextets →
    List Char →
    Option (List UInt8)
  | group, [] => if group.count == 0 then some [] else none
  | group, c :: s =>
      if c == '=' then
        if 2 ≤ group.count then
          if groupSize ≤ group.count + group.padding + 1 then
            some []
          else
            octets? { group with padding := group.padding + 1 } s
        else
          octets? group s
      else
        match sextet? c with
        | none => octets? group s
        | some n =>
            match group.count with
            | 0 => octets? ⟨1, n, 0⟩ s
            | 1 => (octets? ⟨2, n % 16, 0⟩ s).map (UInt8.ofNat (4 * group.rest + n / 16) :: ·)
            | 2 => (octets? ⟨3, n % 4, 0⟩ s).map (UInt8.ofNat (16 * group.rest + n / 4) :: ·)
            | _ => (octets? ⟨0, 0, 0⟩ s).map (UInt8.ofNat (64 * group.rest + n) :: ·)

/-- A binary value; only the characters of the simplest set may be in its text. -/
def binary (s : List Char) : Except Refusal Value :=
  if s.all fun c => c.toNat < 128 then
    match octets? ⟨0, 0, 0⟩ s with
    | some octets => .ok (.bytes octets)
    | none => .error .malformed
  else
    .error .malformed

/-- The value of a scalar; a tag of a collection or of a key has none. -/
def scalar
    (tag : Tag)
    (text : String) :
    Except Refusal Value :=
  match tag with
  | .null => .ok .null
  | .bool => truth text
  | .int => (integer text.toList).map .int
  | .float => (float text.toList).map .float
  | .binary => binary text.toList
  | .stamp => stamp (Tag.withoutLineEnd text.toList)
  | .text => .ok (.text text)
  | .orderedMap
  | .pairs
  | .set
  | .sequence
  | .mapping
  | .merge
  | .default
  | .unknown => .error .malformed

end QueryComposer.Yaml
