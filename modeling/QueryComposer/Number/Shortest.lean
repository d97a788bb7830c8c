import QueryComposer.Number.Binary

namespace QueryComposer.Decimal

/-!
# The shortest numerals of floating-point numbers

A floating-point number is written with the fewest digits that read back as the same number, and
of the numerals with so few digits with the nearest. `shortest` chooses the digits, and
`floatText` lays them out.

If any numeral of a given number of digits reads back, one of the two neighbours of the number
among them does, since the numbers that read back are an interval around it.
-/

/-- The neighbours of a positive number among the multiples of a power of ten, nearest first. -/
def neighbours
    (d : Decimal)
    (step : Int) :
    List Decimal :=
  let unit := Nat.pow 10 (step - d.exponent).toNat
  let magnitude := d.coefficient.natAbs * Nat.pow 10 (d.exponent - step).toNat
  let q := magnitude / unit
  let r := magnitude % unit
  let lowerFirst := 2 * r < unit || (2 * r == unit && q % 2 == 0)
  (if lowerFirst then [q, q + 1] else [q + 1, q]).map fun n => ⟨(n : Nat), step⟩

/-- The number of digits that suffice for every floating-point number. -/
def sufficientDigits : Nat :=
  17

/-- The shortest numeral that reads back as the given positive floating-point number. -/
def shortest (d : Decimal) : Decimal :=
  let readsBack (numeral : Decimal) := numeral.toBinary? == some d
  let first := d.leadingExponent
  ((List.range sufficientDigits).findSome? fun (count : Nat) =>
    (d.neighbours (first - count)).find? readsBack).getD d

/-- The first power of ten of the numbers that are written with a point and no exponent. -/
def leastPositional : Int :=
  -4

/-- The first power of ten beyond the numbers that are written with a point and no exponent. -/
def leastScientific : Int :=
  16

/-- An exponent: its sign and at least two digits. -/
def exponentText (exponent : Int) : String :=
  let digits := Nat.toDigits 10 exponent.natAbs
  let padded := List.replicate (2 - digits.length) '0' ++ digits
  "e" ++ (if exponent < 0 then "-" else "+") ++ String.ofList padded

/-- Write a positive number with one digit before the point and an exponent. -/
def scientificText (d : Decimal) : String :=
  let normal := d.normalize
  let exponent := exponentText normal.leadingExponent
  match Nat.toDigits 10 normal.coefficient.natAbs with
  | [] => exponent
  | [digit] => digit.toString ++ exponent
  | digit :: rest => digit.toString ++ "." ++ String.ofList rest ++ exponent

/-- Write a floating-point number, of which only the magnitude is given; nothing is infinity. -/
def floatText
    (negative : Bool)
    (magnitude : Option Decimal) :
    String :=
  let sign := if negative then "-" else ""
  match magnitude with
  | none => sign ++ "inf"
  | some d =>
      if d.isZero then
        sign ++ "0.0"
      else
        let numeral := d.shortest
        let exponent := numeral.leadingExponent
        if leastPositional ≤ exponent && exponent < leastScientific then
          sign ++ numeral.toText
        else
          sign ++ numeral.scientificText

end QueryComposer.Decimal
