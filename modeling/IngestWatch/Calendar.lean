/-!
The proleptic Gregorian calendar, with days counted from 1970-01-01, and the
texts of dates and times of day.
-/

namespace IngestWatch.Calendar

structure Date where
  year : Int
  month : Nat
  day : Nat
deriving DecidableEq, Repr

/-- The date of a day. Years are taken to begin in March, so that the leap day is
their last day, and are grouped in eras of 400 years. -/
def Date.ofDay (days : Int) : Date :=
  let shifted := days + 719468
  let era := shifted.fdiv 146097
  let dayOfEra := (shifted.fmod 146097).toNat
  let yearOfEra := (dayOfEra - dayOfEra / 1460 + dayOfEra / 36524 - dayOfEra / 146096) / 365
  let dayOfYear := dayOfEra - (365 * yearOfEra + yearOfEra / 4 - yearOfEra / 100)
  let marchMonth := (5 * dayOfYear + 2) / 153
  let day := dayOfYear - (153 * marchMonth + 2) / 5 + 1
  let month := if marchMonth < 10 then marchMonth + 3 else marchMonth - 9
  let year := (yearOfEra : Int) + era * 400
  ⟨if month ≤ 2 then year + 1 else year, month, day⟩

/-- The number of milliseconds of a day. -/
def millisPerDay : Int := 86400000

/-- The day of a wall-clock reading, given in milliseconds since 1970-01-01 00:00. -/
def dayOf (wallMillis : Int) : Int :=
  wallMillis.fdiv millisPerDay

/-- At least `width` digits, with zeros in front. -/
def padded (width n : Nat) : String :=
  let digits := Nat.toDigits 10 n
  String.ofList (List.replicate (width - digits.length) '0' ++ digits)

/-- Four digits for the years 0 to 9999, and a sign before all others. -/
def yearText (year : Int) : String :=
  if year < 0 then "-" ++ padded 4 year.natAbs
  else if 9999 < year then "+" ++ padded 4 year.natAbs
  else padded 4 year.natAbs

def Date.text (d : Date) : String :=
  s!"{yearText d.year}-{padded 2 d.month}-{padded 2 d.day}"

/-- The time of a second of the day; `leap` is one for the reading sixty. -/
def clockText (second leap : Nat) : String :=
  s!"{padded 2 (second / 3600)}:{padded 2 (second / 60 % 60)}:{padded 2 (second % 60 + leap)}"

/-- An instant in seconds, with the nanoseconds after it, as a clock at a given
offset shows it. From `10 ^ 9` on the nanoseconds lie in a leap second. -/
structure Moment where
  seconds : Int
  nanos : Nat
  offset : Int
deriving DecidableEq, Repr

namespace Moment

def ofMillis (millis offset : Int) : Moment :=
  ⟨millis.fdiv 1000, (millis.fmod 1000).toNat * 1000000, offset⟩

def date (m : Moment) : Date :=
  .ofDay ((m.seconds + m.offset).fdiv 86400)

def clock (m : Moment) : String :=
  clockText ((m.seconds + m.offset).fmod 86400).toNat (m.nanos / 1000000000)

/-- Date and time to the second. -/
def text (m : Moment) : String :=
  s!"{m.date.text} {m.clock}"

/-- Date and time to the millisecond. -/
def millisText (m : Moment) : String :=
  s!"{m.text}.{padded 3 (m.nanos % 1000000000 / 1000000)}"

/-- The digits after the second: none, three, six or nine, as few as are exact. -/
def fractionText (nanos : Nat) : String :=
  let n := nanos % 1000000000
  if n = 0 then ""
  else if n % 1000000 = 0 then "." ++ padded 3 (n / 1000000)
  else if n % 1000 = 0 then "." ++ padded 6 (n / 1000)
  else "." ++ padded 9 n

/-- Hours and minutes east of UTC, rounded to the nearest minute. -/
def offsetText (offset : Int) : String :=
  let minutes := (offset.natAbs + 30) / 60
  let sign := if offset < 0 then "-" else "+"
  s!"{sign}{padded 2 (minutes / 60)}:{padded 2 (minutes % 60)}"

/-- The form of RFC 3339. -/
def rfc3339 (m : Moment) : String :=
  s!"{m.date.text}T{m.clock}{fractionText m.nanos}{offsetText m.offset}"

/-- Date and time of UTC to the microsecond. -/
def utcText (m : Moment) : String :=
  let u := { m with offset := 0 }
  s!"{u.date.text}T{u.clock}.{padded 6 (u.nanos % 1000000000 / 1000)}Z"

end Moment

end IngestWatch.Calendar
