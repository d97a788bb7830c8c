import QueryComposer.Number.Decimal

namespace QueryComposer

/-!
# Binary floating-point numbers

A floating-point number has a significand of at most 53 bits and an exponent from -1074 on.
`Decimal.toBinary?` gives the exact value of the floating-point number nearest to a decimal one,
a half going to the even significand; beyond the largest finite number there is none.
-/

namespace Decimal

/-- The quotient rounded to the nearest integer, a half to the even one. -/
def roundDiv
    (numerator denominator : Nat) :
    Nat :=
  let q := numerator / denominator
  let r := numerator % denominator
  if 2 * r < denominator || (2 * r == denominator && q % 2 == 0) then q else q + 1

/-- The significand that a positive quotient has at one binary exponent. -/
def significandAt
    (numerator denominator : Nat)
    (exponent : Int) :
    Nat :=
  if 0 ≤ exponent then
    roundDiv numerator (denominator * Nat.pow 2 exponent.toNat)
  else
    roundDiv (numerator * Nat.pow 2 (-exponent).toNat) denominator

/-- The exact decimal value of a significand and a binary exponent. -/
def ofBinary
    (significand : Int)
    (exponent : Int) :
    Decimal :=
  if 0 ≤ exponent then
    normalize ⟨significand * Int.pow 2 exponent.toNat, 0⟩
  else
    normalize ⟨significand * Int.pow 5 (-exponent).toNat, exponent⟩

/-- The power of ten that a number other than zero reaches and ten times that it does not. -/
def leadingExponent (d : Decimal) : Int :=
  (Nat.toDigits 10 d.coefficient.natAbs).length - 1 + d.exponent

/-- No number that reaches this power of ten is a finite floating-point number. -/
def infiniteExponent : Int :=
  309

/-- Every number that does not reach ten times this power of ten is nearest to zero. -/
def vanishingExponent : Int :=
  -325

/-- The floating-point number nearest to one that is neither zero nor out of all bounds. -/
def nearestBinary? (d : Decimal) : Option Decimal :=
  let magnitude := d.coefficient.natAbs
  let numerator := if 0 ≤ d.exponent then magnitude * Nat.pow 10 d.exponent.toNat else magnitude
  let denominator := if 0 ≤ d.exponent then 1 else Nat.pow 10 (-d.exponent).toNat
  let estimate : Int := (numerator.log2 : Int) - (denominator.log2 : Int) - 52
  let lower := max (estimate - 1) (-1074)
  let exponent :=
    if significandAt numerator denominator lower < Nat.pow 2 53 then
      lower
    else if significandAt numerator denominator (lower + 1) < Nat.pow 2 53 then
      lower + 1
    else
      lower + 2
  let significand := significandAt numerator denominator exponent
  if 971 < exponent then
    none
  else
    some (ofBinary (d.coefficient.sign * significand) exponent)

/-- The floating-point number nearest to a decimal number; nothing if it is not finite. -/
def toBinary? (d : Decimal) : Option Decimal :=
  if d.isZero || d.leadingExponent ≤ vanishingExponent then
    some ⟨0, 0⟩
  else if infiniteExponent ≤ d.leadingExponent then
    none
  else
    d.nearestBinary?

end Decimal

end QueryComposer
