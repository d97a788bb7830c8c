import QueryComposer.Number.Decimal
import QueryComposer.Text.Blank

namespace QueryComposer.Numeral

/-!
# Integers in texts

An integer in a text may have white space around it, a sign, zeros and low lines before its first
digit, low lines between its digits and a fraction of zeros. `integer` reads one, or says why
there is none.

A minus sign may also follow leading zeros; behind a minus sign there are no leading zeros.
-/

/-- Why a text is no integer. -/
inductive Defect where
  | malformed
  | tooLong
  deriving Repr, DecidableEq

/-- The number of characters that an integer may have, its sign included. -/
def maxLength : Nat :=
  4300

/-- The text without the white space at either end. -/
def trimmed (s : List Char) : List Char :=
  ((s.dropWhile Text.isWhiteSpace).reverse.dropWhile Text.isWhiteSpace).reverse

/-- The text without a plus sign at its start; a minus sign cannot follow one. -/
def withoutPlus? : List Char → Option (List Char)
  | '+' :: '-' :: _ => none
  | '+' :: rest => some rest
  | s => some s

/-- What follows zeros and low lines, the last of them given; it stays if no digit follows. -/
def afterZeros? :
    Char →
    List Char →
    Option (List Char)
  | last, [] => some [last]
  | last, c :: rest =>
      if c == '0' || c == '_' then
        afterZeros? c rest
      else if c == '.' then
        some (last :: c :: rest)
      else if c.isDigit || c == '-' then
        some (c :: rest)
      else
        none

/-- The text without its leading zeros; it has to start with a digit or a minus sign. -/
def withoutZeros? : List Char → Option (List Char)
  | [] => none
  | c :: rest =>
      if c == '0' then
        afterZeros? c rest
      else if c.isDigit || c == '-' then
        some (c :: rest)
      else
        none

/-- The text without a point and the zeros that follow it; there has to be one of them. -/
def withoutFraction (s : List Char) : List Char :=
  match s.dropWhile (· != '.') with
  | '.' :: c :: zeros =>
      if (c :: zeros).all (· == '0') then s.takeWhile (· != '.') else s
  | _ => s

/-- Two low lines stand side by side. -/
def hasDoubleLowLine : List Char → Bool
  | '_' :: '_' :: _ => true
  | _ :: rest => hasDoubleLowLine rest
  | [] => false

/-- The text without its low lines, if each of them stands alone and inside the text. -/
def withoutLowLines (s : List Char) : List Char :=
  if s.head? == some '_' || s.getLast? == some '_' || hasDoubleLowLine s then
    s
  else
    s.filter (· != '_')

/-- The integer that digits with a minus sign spell. -/
def signedInteger (s : List Char) : Except Defect Int :=
  let negative := s.head? == some '-'
  let unsigned := if negative then s.drop 1 else s
  let digits := unsigned.takeWhile Char.isDigit
  if digits.isEmpty || (digits.head? == some '0' && 1 < digits.length) then
    .error .malformed
  else if maxLength < digits.length + (if negative then 1 else 0) then
    .error .tooLong
  else if digits.length < unsigned.length then
    .error .malformed
  else
    match Decimal.digits? digits with
    | some n => .ok (if negative then -(n : Int) else n)
    | none => .error .malformed

/-- The integer that a text stands for. -/
def integer (text : String) : Except Defect Int :=
  match (withoutPlus? (trimmed text.toList)).bind withoutZeros? with
  | some s => signedInteger (withoutLowLines (withoutFraction s))
  | none => .error .malformed

end QueryComposer.Numeral
