import QueryComposer.Number.Shortest
import QueryComposer.Text.Blank
import QueryComposer.Yaml.Position

namespace QueryComposer.Yaml

/-!
# Numbers in a document

The spellings of numbers are those of YAML 1.1: a leading zero makes an integer octal, colons
make a number sexagesimal, and low lines between digits do not count. `isInteger` and `isFloat`
tell the spellings of plain scalars.

A scalar with a tag that asks for a number may have further spellings; `integer` and `float` read
those too, and refuse what spells no number.
-/

/-! ## Spellings -/

/-- The value of a digit in a base up to sixteen. -/
def digitValue? (c : Char) : Option Nat :=
  if c.isDigit then
    some (c.toNat - '0'.toNat)
  else if 'a' ≤ c && c ≤ 'f' then
    some (c.toNat - 'a'.toNat + 10)
  else if 'A' ≤ c && c ≤ 'F' then
    some (c.toNat - 'A'.toNat + 10)
  else
    none

/-- The character is a digit in a base. -/
def isDigitOf
    (base : Nat)
    (c : Char) :
    Bool :=
  match digitValue? c with
  | some d => d < base
  | none => false

/-- Digits of a base and low lines, and at least one of them. -/
def isRunOf
    (base : Nat)
    (s : List Char) :
    Bool :=
  !s.isEmpty && s.all fun c => c == '_' || isDigitOf base c

/-- A decimal digit, and digits and low lines behind it. -/
def isNumeral : List Char → Bool
  | c :: rest => c.isDigit && (rest.isEmpty || isRunOf 10 rest)
  | [] => false

/-- The pieces between the colons of a text. -/
def colonParts (s : List Char) : List (List Char) :=
  s.splitOn ':'

/-- A group of a sexagesimal number after its first: one digit, or two with the first below six. -/
def isSexagesimalGroup : List Char → Bool
  | [c] => c.isDigit
  | [c, d] => c.isDigit && c < '6' && d.isDigit
  | _ => false

/-- A numeral, and groups of a sexagesimal number behind it. -/
def isGrouped (parts : List (List Char)) : Bool :=
  match parts with
  | first :: groups => isNumeral first && groups.all isSexagesimalGroup
  | [] => false

/-- The spelling of an integer in one of the five notations. -/
def isInteger (s : List Char) : Bool :=
  match (Decimal.signed s).2 with
  | '0' :: 'b' :: digits => isRunOf 2 digits
  | '0' :: 'x' :: digits => isRunOf 16 digits
  | ['0'] => true
  | '0' :: digits => isRunOf 8 digits
  | unsigned => isGrouped (colonParts unsigned)

/-- An exponent with a sign, or nothing. -/
def isExponent : List Char → Bool
  | [] => true
  | e :: sign :: digits =>
      (e == 'e' || e == 'E') && (sign == '-' || sign == '+') && !digits.isEmpty &&
        digits.all Char.isDigit
  | _ => false

/-- The words for an infinite number. -/
def infinityWords : List String :=
  [".inf", ".Inf", ".INF"]

/-- The words for what is no number. -/
def nanWords : List String :=
  [".nan", ".NaN", ".NAN"]

/--
A number with a point: a numeral, a point, digits and an exponent.

Without a sign the numeral may be left out, and instead of an exponent there may be groups of a
sexagesimal number before the point.
-/
def isPointed
    (hasSign : Bool)
    (unsigned : List Char) :
    Bool :=
  let whole := unsigned.takeWhile (· != '.')
  match unsigned.dropWhile (· != '.') with
  | _ :: rest =>
      let fraction := rest.takeWhile fun c => c.isDigit || c == '_'
      let tail := rest.drop fraction.length
      match colonParts whole with
      | [[]] => !hasSign && isNumeral fraction && isExponent tail
      | [digits] => isNumeral digits && isExponent tail
      | parts => isGrouped parts && tail.isEmpty
  | [] => false

/-- The spelling of a number with a point. -/
def isFloat (s : List Char) : Bool :=
  let unsigned := (Decimal.signed s).2
  infinityWords.contains (String.ofList unsigned) || nanWords.contains (String.ofList s) ||
    isPointed (unsigned.length < s.length) unsigned

/-! ## Values -/

/-- The text without its low lines. -/
def withoutLowLines (s : List Char) : List Char :=
  s.filter (· != '_')

/-- The number of decimal digits that an integer may have. -/
def maxDigits : Nat :=
  4300

/-- The letters of which one may follow a zero to name the base. -/
def baseLetters (base : Nat) : List Char :=
  if base == 2 then
    ['b', 'B']
  else if base == 8 then
    ['o', 'O']
  else if base == 16 then
    ['x', 'X']
  else
    []

/-- The digits behind the mark of their base, if it is there. -/
def behindBase
    (base : Nat)
    (s : List Char) :
    List Char :=
  match s with
  | '0' :: letter :: digits => if (baseLetters base).contains letter then digits else s
  | _ => s

/-- The integer that digits of a base spell, with a sign, and white space around them. -/
def integerIn
    (base : Nat)
    (s : List Char) :
    Except Refusal Int :=
  let (negative, unsigned) := Decimal.signed (Text.trim s)
  let digits := behindBase base unsigned
  if digits.isEmpty || !digits.all (isDigitOf base) then
    .error .noNumber
  else if base == 10 && maxDigits < digits.length then
    .error .noNumber
  else
    let n := (digits.filterMap digitValue?).foldl (fun n d => base * n + d) 0
    .ok (if negative then -(n : Int) else n)

/-- The integer that a scalar spells. -/
def integer (s : List Char) : Except Refusal Int := do
  let (negative, unsigned) := Decimal.signed (withoutLowLines s)
  let n ←
    match unsigned with
    | [] => .error .noDigits
    | '0' :: 'b' :: digits => integerIn 2 digits
    | '0' :: 'x' :: digits => integerIn 16 digits
    | '0' :: _ => integerIn 8 unsigned
    | _ => do
        let groups ← (colonParts unsigned).mapM (integerIn 10)
        pure (groups.foldl (fun n d => 60 * n + d) 0)
  return if negative then -n else n

/-- A floating-point number; the magnitude is left out if it is infinite. -/
inductive Floating where
  | number (negative : Bool) (magnitude : Option Decimal)
  | nan
  deriving Repr, DecidableEq

namespace Floating

/-- Write a floating-point number. -/
def toText : Floating → String
  | .number negative magnitude => Decimal.floatText negative magnitude
  | .nan => "nan"

/-- The opposite number, if the condition holds. -/
def negatedIf
    (negate : Bool) :
    Floating →
    Floating
  | .number negative magnitude => .number (negate != negative) magnitude
  | .nan => .nan

/-- The floating-point number that a numeral or a word spells, with white space around it. -/
def ofText (s : List Char) : Except Refusal Floating :=
  let (negative, unsigned) := Decimal.signed (Text.trim s)
  let text := String.ofList unsigned
  if ["inf", "infinity"].contains text then
    .ok (.number negative none)
  else if text == "nan" then
    .ok .nan
  else
    match unsigned, Decimal.ofText? text with
    | c :: _, some d =>
        if c == '-' || c == '+' then .error .noNumber else .ok (.number negative d.toBinary?)
    | _, _ => .error .noNumber

/-- The sum of a finite number and a multiple of another one, rounded at each step. -/
def addTimes
    (sum : Decimal)
    (factor : Nat) :
    Floating →
    Option Decimal
  | .number negative (some d) => do
      let product ← (d.times factor).toBinary?
      (sum.add (if negative then product.times (-1) else product)).toBinary?
  | _ => none

/-- The number that the groups of a sexagesimal number spell, from the last group on. -/
def ofGroups :
    Nat →
    Decimal →
    List Floating →
    Option Decimal
  | _, sum, [] => some sum
  | factor, sum, group :: rest => do
      ofGroups (60 * factor) (← addTimes sum factor group) rest

end Floating

/-- The number with a point that a scalar spells, as a numeral. -/
def float (s : List Char) : Except Refusal String := do
  let (negative, unsigned) := Decimal.signed ((withoutLowLines s).map Char.toLower)
  let value ←
    match withoutLowLines s, colonParts unsigned with
    | [], _ => .error .noDigits
    | _, [_] =>
        if String.ofList unsigned == ".inf" then
          .ok (.number false none)
        else if String.ofList unsigned == ".nan" then
          .ok .nan
        else
          Floating.ofText unsigned
    | _, parts => do
        let groups ← parts.mapM Floating.ofText
        match Floating.ofGroups 1 ⟨0, 0⟩ groups.reverse with
        | some sum => pure (.number (sum.coefficient < 0) (some { sum with
            coefficient := sum.coefficient.natAbs }))
        | none => pure (.number false none)
  return (value.negatedIf negative).toText

end QueryComposer.Yaml
