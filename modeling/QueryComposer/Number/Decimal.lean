namespace QueryComposer

/-!
# Decimal numbers

A decimal number is an integer times a power of ten. In the normal form the integer does not end
in a zero, so that two numbers are equal exactly if their normal forms are the same.
-/

/-- The number `coefficient * 10 ^ exponent`. -/
structure Decimal where
  coefficient : Int
  exponent : Int
  deriving Repr, DecidableEq

namespace Decimal

/-- Drop the zeros at the end of a positive coefficient, at most `fuel` of them. -/
def dropZeros :
    Nat →
    Nat →
    Int →
    Nat × Int
  | 0, n, e => (n, e)
  | fuel + 1, n, e =>
      if n % 10 == 0 && n != 0 then
        dropZeros fuel (n / 10) (e + 1)
      else
        (n, e)

/-- The normal form: no zero at the end of the coefficient, and exponent zero for zero. -/
def normalize (d : Decimal) : Decimal :=
  let n := d.coefficient.natAbs
  if n == 0 then
    ⟨0, 0⟩
  else
    let (m, e) := dropZeros (n.log2 + 1) n d.exponent
    ⟨d.coefficient.sign * m, e⟩

/-- The coefficient that a number has at an exponent which is not greater than its own. -/
def coefficientAt
    (d : Decimal)
    (exponent : Int) :
    Int :=
  d.coefficient * Int.pow 10 (d.exponent - exponent).toNat

/-- The sum of two numbers. -/
def add (d other : Decimal) : Decimal :=
  let exponent := min d.exponent other.exponent
  ⟨d.coefficientAt exponent + other.coefficientAt exponent, exponent⟩

/-- A number times an integer. -/
def times
    (d : Decimal)
    (n : Int) :
    Decimal :=
  ⟨d.coefficient * n, d.exponent⟩

/-- An integer as a decimal number in normal form. -/
def ofInt (n : Int) : Decimal :=
  normalize ⟨n, 0⟩

/-- The number is zero. -/
def isZero (d : Decimal) : Bool :=
  d.coefficient == 0

/-- The integer that the number is equal to, if there is one. -/
def toInt? (d : Decimal) : Option Int :=
  let d := d.normalize
  if 0 ≤ d.exponent then
    some (d.coefficient * Int.pow 10 d.exponent.toNat)
  else
    none

/-- The value of a list of decimal digits, or nothing if another character is among them. -/
def digits? (s : List Char) : Option Nat :=
  if s.all Char.isDigit then
    some (s.foldl (fun n c => 10 * n + (c.toNat - '0'.toNat)) 0)
  else
    none

/-- A sign and what follows it. -/
def signed : List Char → Bool × List Char
  | '-' :: rest => (true, rest)
  | '+' :: rest => (false, rest)
  | s => (false, s)

/-- Read an exponent part: nothing, or a letter `e`, a sign and digits. -/
def exponent? : List Char → Option Int
  | [] => some 0
  | c :: rest =>
      if c == 'e' || c == 'E' then
        let (negative, digits) := signed rest
        if digits.isEmpty then
          none
        else
          (digits? digits).map fun n => if negative then -(n : Int) else n
      else
        none

/-- Read a numeral: a sign, digits with at most one point among them, and an exponent. -/
def ofText? (text : String) : Option Decimal := do
  let (negative, s) := signed text.toList
  let whole := s.takeWhile Char.isDigit
  let afterWhole := s.dropWhile Char.isDigit
  let (fraction, rest) :=
    match afterWhole with
    | '.' :: t => (t.takeWhile Char.isDigit, t.dropWhile Char.isDigit)
    | t => ([], t)
  if whole.isEmpty && fraction.isEmpty then
    none
  else
    let n ← digits? (whole ++ fraction)
    let e ← exponent? rest
    some ⟨if negative then -(n : Int) else n, e - fraction.length⟩

/-- Write a number with a point, as many digits as the coefficient has, and no exponent. -/
def toText (d : Decimal) : String :=
  let d := d.normalize
  let digits := (Nat.toDigits 10 d.coefficient.natAbs)
  let sign := if d.coefficient < 0 then "-" else ""
  if 0 ≤ d.exponent then
    sign ++ String.ofList (digits ++ List.replicate d.exponent.toNat '0') ++ ".0"
  else
    let places := d.exponent.natAbs
    let padded := List.replicate (places + 1 - digits.length) '0' ++ digits
    let whole := padded.take (padded.length - places)
    let fraction := padded.drop (padded.length - places)
    sign ++ String.ofList whole ++ "." ++ String.ofList fraction

end Decimal

end QueryComposer
