import QueryComposer.Number.Decimal

namespace QueryComposer

/-!
# Dates and times of day

Dates and times are only carried through the library. They are read from the ISO format and
written back in it, and messages show their parts.
-/

/-- A day of the calendar. -/
structure Date where
  year : Nat
  month : Nat
  day : Nat
  deriving Repr, DecidableEq

/-- A time of day, with the offset from universal time in microseconds if it is known. -/
structure Clock where
  hour : Nat
  minute : Nat
  second : Nat
  microsecond : Nat
  offset : Option Int
  deriving Repr, DecidableEq

/-- A number in decimal, padded with zeros to the given width. -/
def padded
    (width : Nat)
    (n : Nat) :
    String :=
  let digits := Nat.toDigits 10 n
  String.ofList (List.replicate (width - digits.length) '0' ++ digits)

/-- The first part that two separated texts are split into, and the rest after the separator. -/
def splitAtChar
    (separator : Char)
    (s : List Char) :
    List Char × Option (List Char) :=
  match s.dropWhile (· != separator) with
  | [] => (s, none)
  | _ :: rest => (s.takeWhile (· != separator), some rest)

namespace Date

/-- Write a day in the ISO format. -/
def toText (d : Date) : String :=
  padded 4 d.year ++ "-" ++ padded 2 d.month ++ "-" ++ padded 2 d.day

/-- Read a day in the ISO format. -/
def ofText? (text : String) : Option Date := do
  let (year, some rest) := splitAtChar '-' text.toList | none
  let (month, some day) := splitAtChar '-' rest | none
  some ⟨← Decimal.digits? year, ← Decimal.digits? month, ← Decimal.digits? day⟩

/-- The parts of a day as a message lists them. -/
def parts (d : Date) : List String :=
  [toString d.year, toString d.month, toString d.day]

/-- A year in which February has 29 days. -/
def isLeapYear (year : Nat) : Bool :=
  year % 4 == 0 && (year % 100 != 0 || year % 400 == 0)

/-- The number of days of a month; there are none of a month that is not between 1 and 12. -/
def monthLength
    (year month : Nat) :
    Nat :=
  if month == 2 then
    if isLeapYear year then 29 else 28
  else if [4, 6, 9, 11].contains month then
    30
  else if 1 ≤ month && month ≤ 12 then
    31
  else
    0

/-- The day exists: its year has four digits and its month has so many days. -/
def isValid (d : Date) : Bool :=
  1 ≤ d.year && d.year ≤ 9999 && 1 ≤ d.day && d.day ≤ monthLength d.year d.month

/-- The number of the day, counted from the first day of the first year. -/
def ordinal (d : Date) : Nat :=
  let years := d.year - 1
  let months := (List.range (d.month - 1)).map fun index => monthLength d.year (index + 1)
  365 * years + years / 4 - years / 100 + years / 400 + months.foldr (· + ·) 0 + d.day

end Date

namespace Clock

/-- The number of microseconds in a second. -/
def microseconds : Nat :=
  1000000

/-- An offset in the ISO format: sign, hours and minutes, and the smaller units that it needs. -/
def offsetText (offset : Int) : String :=
  let fine := offset.natAbs % microseconds
  let n := offset.natAbs / microseconds
  let sign := if offset < 0 then "-" else "+"
  let base := sign ++ padded 2 (n / 3600) ++ ":" ++ padded 2 (n / 60 % 60)
  if fine != 0 then
    base ++ ":" ++ padded 2 (n % 60) ++ "." ++ padded 6 fine
  else if n % 60 != 0 then
    base ++ ":" ++ padded 2 (n % 60)
  else
    base

/-- Write a time of day in the ISO format. -/
def toText (t : Clock) : String :=
  let base := padded 2 t.hour ++ ":" ++ padded 2 t.minute ++ ":" ++ padded 2 t.second
  let fine := if t.microsecond == 0 then base else base ++ "." ++ padded 6 t.microsecond
  match t.offset with
  | none => fine
  | some offset => fine ++ offsetText offset

/-- Hours, minutes and seconds separated by colons; what is left out is zero. -/
def fields? (s : List Char) : Option (Nat × Nat × List Char) := do
  let (hour, afterHour) := splitAtChar ':' s
  let hour ← Decimal.digits? hour
  match afterHour with
  | none => some (hour, 0, [])
  | some rest =>
      let (minute, afterMinute) := splitAtChar ':' rest
      some (hour, ← Decimal.digits? minute, afterMinute.getD [])

/-- Seconds and microseconds. -/
def secondFields? (s : List Char) : Option (Nat × Nat) := do
  let (second, fraction) := splitAtChar '.' s
  let micro := (fraction.getD []).take 6
  some (← Decimal.digits? second,
    ← Decimal.digits? (micro ++ List.replicate (6 - micro.length) '0'))

/-- Read an offset that follows its sign. -/
def offset?
    (negative : Bool)
    (s : List Char) :
    Option Int := do
  let (hour, minute, rest) ← fields? s
  let (second, fine) ← secondFields? rest
  let total : Int := (3600 * hour + 60 * minute + second) * microseconds + fine
  some (if negative then -total else total)

/-- Read a time of day in the ISO format. -/
def ofText? (text : String) : Option Clock := do
  let isZone (c : Char) := c == '+' || c == '-' || c == 'Z'
  let clock := text.toList.takeWhile (!isZone ·)
  let zone := text.toList.dropWhile (!isZone ·)
  let (hour, minute, rest) ← fields? clock
  let (second, microsecond) ← secondFields? rest
  let offset ←
    match zone with
    | [] => some none
    | 'Z' :: _ => some (some 0)
    | c :: digits => (offset? (c == '-') digits).map some
  some ⟨hour, minute, second, microsecond, offset⟩

/-- A unit of a time span as a message lists it; one of which there is none is left out. -/
def unitDisplay
    (unit : String)
    (n : Int) :
    List String :=
  if n == 0 then [] else [unit ++ "=" ++ toString n]

/-- A known offset as a message shows it: whole days, which may be negative, and what is over. -/
def zoneDisplay (offset : Int) : String :=
  if offset == 0 then
    "tzinfo=datetime.timezone.utc"
  else
    let seconds := offset.fdiv microseconds
    let units := unitDisplay "days" (seconds.fdiv 86400) ++
      unitDisplay "seconds" (seconds.fmod 86400) ++
      unitDisplay "microseconds" (offset.fmod microseconds)
    "tzinfo=datetime.timezone(datetime.timedelta(" ++ ", ".intercalate units ++ "))"

/-- The parts of a time of day as a message lists them: seconds and microseconds only if needed. -/
def parts (t : Clock) : List String :=
  let fine :=
    if t.microsecond != 0 then
      [toString t.second, toString t.microsecond]
    else if t.second != 0 then
      [toString t.second]
    else
      []
  let zone :=
    match t.offset with
    | none => []
    | some offset => [zoneDisplay offset]
  [toString t.hour, toString t.minute] ++ fine ++ zone

/-- The time exists, and its offset is less than a day. -/
def isValid (t : Clock) : Bool :=
  t.hour < 24 && t.minute < 60 && t.second < 60 && t.microsecond < microseconds &&
    (t.offset.getD 0).natAbs < 86400 * microseconds

/-- The microseconds since midnight in universal time; an offset that is unknown is zero. -/
def universal (t : Clock) : Int :=
  (3600 * t.hour + 60 * t.minute + t.second) * microseconds + t.microsecond - t.offset.getD 0

/-- The two times are one: they are equal in universal time, or none of them has an offset. -/
def agrees
    (t other : Clock) :
    Bool :=
  t.offset.isSome == other.offset.isSome && t.universal == other.universal &&
    t.microsecond == other.microsecond

end Clock

/-- The two points in time are one; the offset may carry a time into another day. -/
def agreesOn
    (day otherDay : Date)
    (t other : Clock) :
    Bool :=
  let dayLength : Int := 86400 * Clock.microseconds
  t.offset.isSome == other.offset.isSome &&
    day.ordinal * dayLength + t.universal == otherDay.ordinal * dayLength + other.universal

end QueryComposer
