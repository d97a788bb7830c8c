import QueryComposer.Value.Basic
import QueryComposer.Yaml.Position

namespace QueryComposer.Yaml

/-!
# Days and times in a document

A day is written with four, two and two digits. A time stamp is a day and a time, with a letter
or blanks between them, and may end with an offset; its month and its day may be of one digit.
-/

/-- At most two digits, and at least one. -/
def shortNumber? (s : List Char) : Option Nat :=
  if s.isEmpty || 2 < s.length then none else Decimal.digits? s

/-- Exactly two digits. -/
def twoDigits? (s : List Char) : Option Nat :=
  if s.length == 2 then Decimal.digits? s else none

/-- A space or a tab. -/
def isBlank (c : Char) : Bool :=
  c == ' ' || c == '\t'

/-- The offset of a time stamp. -/
def zone? (s : List Char) : Option (Option Int) :=
  match s.dropWhile isBlank with
  | [] => if s.isEmpty then some none else none
  | ['Z'] => some (some 0)
  | sign :: rest =>
      if sign == '+' || sign == '-' then do
        let (hour, minute) := splitAtChar ':' rest
        let h ← shortNumber? hour
        let m ← match minute with
          | none => some 0
          | some digits => twoDigits? digits
        let total : Int := (3600 * h + 60 * m) * Clock.microseconds
        some (some (if sign == '-' then -total else total))
      else
        none

/-- The time of a time stamp: hours, minutes, seconds, a fraction and an offset. -/
def stampClock? (s : List Char) : Option Clock := do
  let (hour, some afterHour) := splitAtChar ':' s | none
  let (minute, some afterMinute) := splitAtChar ':' afterHour | none
  let second := afterMinute.takeWhile Char.isDigit
  let rest := afterMinute.dropWhile Char.isDigit
  let (fraction, tail) := match rest with
    | '.' :: t => (t.takeWhile Char.isDigit, t.dropWhile Char.isDigit)
    | t => ([], t)
  let micro := fraction.take 6
  some {
    hour := ← shortNumber? hour
    minute := ← twoDigits? minute
    second := ← twoDigits? second
    microsecond := ← Decimal.digits? (micro ++ List.replicate (6 - micro.length) '0')
    offset := ← zone? tail }

/-- A day, and a time of it behind a letter or blanks. -/
def stamp? (s : List Char) : Option (Date × Option Clock) := do
  let (year, some rest) := splitAtChar '-' s | none
  let (month, some afterMonth) := splitAtChar '-' rest | none
  let dayDigits := afterMonth.takeWhile Char.isDigit
  let day : Date := ⟨← Decimal.digits? year, ← shortNumber? month, ← shortNumber? dayDigits⟩
  let clock ←
    match afterMonth.drop dayDigits.length with
    | [] => some none
    | 'T' :: time
    | 't' :: time => (stampClock? time).map some
    | c :: time =>
        if isBlank c then (stampClock? (time.dropWhile isBlank)).map some else none
  if year.length == 4 then some (day, clock) else none

/-- The spelling of a day or a time stamp; months and days alone need two digits. -/
def isStamp (s : List Char) : Bool :=
  match stamp? s with
  | some (_, some _) => true
  | some (_, none) => s.length == 10
  | none => false

/-- The day or the time stamp that a scalar spells; it has to exist. -/
def stamp (s : List Char) : Except Refusal Value :=
  match stamp? s with
  | none => .error .noStamp
  | some (day, none) => if day.isValid then .ok (.date day) else .error .noNumber
  | some (day, some clock) =>
      if day.isValid && clock.isValid then .ok (.datetime day clock) else .error .noNumber

end QueryComposer.Yaml
