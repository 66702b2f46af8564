import IngestWatch.Toml.Number

/-!
Dates and times of TOML, read and written in normal form.
-/

namespace IngestWatch.Toml

/-- A number with zeros in front. -/
def padded (width n : Nat) : String :=
  let digits := Nat.toDigits 10 n
  String.ofList (List.replicate (width - digits.length) '0' ++ digits)

/-- Exactly so many digits. -/
def exactDigits : Nat → List Char → Reading (List Char × List Char)
  | 0, cs => .ok ([], cs)
  | n + 1, c :: rest =>
    if isDigit c then (exactDigits n rest).map fun (digits, rest) => (c :: digits, rest)
    else .error .plain
  | _ + 1, [] => .error .plain

/-- Two digits between two bounds. -/
def twoDigits (low high : Nat) (cs : List Char) : Reading (Nat × List Char) := do
  let (digits, rest) ← exactDigits 2 cs
  let n := ofDigits 10 digits
  if low ≤ n ∧ n ≤ high then pure (n, rest) else throw (.ofCause .outOfRange)

def isLeap (year : Nat) : Bool :=
  year % 4 = 0 && (year % 100 ≠ 0 || year % 400 = 0)

def daysIn (year month : Nat) : Nat :=
  if month = 2 then (if isLeap year then 29 else 28)
  else if [4, 6, 9, 11].contains month then 30 else 31

/-- A date; after the hyphen that follows its year it is firm. -/
def readDate (cs : List Char) : Reading (String × List Char) := do
  let (digits, rest) ← exactDigits 4 cs
  let year := ofDigits 10 digits
  let rest ← readChar '-' rest
  let (month, rest) ← firmly (twoDigits 1 12 rest)
  let rest ← firmly (readChar '-' rest)
  let (day, rest) ← firmly (twoDigits 1 31 rest)
  if daysIn year month < day then firmly (throw (.ofCause .outOfRange))
  else pure (s!"{padded 4 year}-{padded 2 month}-{padded 2 day}", rest)

/-- The digits of a second's fraction to the nanosecond, without zeros at the end. -/
def fractionText (digits : List Char) : String :=
  let kept := (((digits.take 9).reverse.dropWhile (· = '0')).reverse)
  if kept.isEmpty then "" else String.ofList ('.' :: kept)

/-- The fraction of a second, which may be missing. -/
def readSecondFraction : List Char → String × List Char
  | '.' :: rest =>
    let digits := rest.takeWhile isDigit
    if digits.isEmpty then ("", '.' :: rest) else (fractionText digits, rest.drop digits.length)
  | rest => ("", rest)

/-- A time of day; after the colon that follows its hour it is firm. -/
def readTime (cs : List Char) : Reading (String × List Char) := do
  let (hour, rest) ← twoDigits 0 23 cs
  let rest ← readChar ':' rest
  let (minute, rest) ← firmly (twoDigits 0 59 rest)
  let rest ← firmly (readChar ':' rest)
  let (second, rest) ← firmly (twoDigits 0 60 rest)
  let (fraction, rest) := readSecondFraction rest
  pure (s!"{padded 2 hour}:{padded 2 minute}:{padded 2 second}{fraction}", rest)

/-- The distance to universal time; a distance of nothing is written with a plus. -/
def readOffset (cs : List Char) : Reading (String × List Char) :=
  let distance (sign : String) (rest : List Char) : Reading (String × List Char) := firmly do
    let (hour, rest) ← twoDigits 0 23 rest
    let rest ← readChar ':' rest
    let (minute, rest) ← twoDigits 0 59 rest
    let sign := if hour = 0 ∧ minute = 0 then "+" else sign
    pure (s!"{sign}{padded 2 hour}:{padded 2 minute}", rest)
  labelled "time offset" <|
    match cs with
    | 'Z' :: rest => .ok ("Z", rest)
    | 'z' :: rest => .ok ("Z", rest)
    | '+' :: rest => distance "+" rest
    | '-' :: rest => distance "-" rest
    | _ => .error .plain

/-- The time and the offset that may follow a date. -/
def readDayTime (cs : List Char) : Reading (String × List Char) := do
  let rest ← orElse (readChar 'T' cs) fun _ => orElse (readChar 't' cs) fun _ => readChar ' ' cs
  let (time, rest) ← readTime rest
  let (offset, rest) ← perhaps rest (readOffset rest)
  pure ("T" ++ time ++ offset.getD "", rest)

/-- A date, a date with a time, or a time. -/
def readMoment (cs : List Char) : Reading (String × List Char) :=
  let dated : Reading (String × List Char) := do
    let (date, rest) ← readDate cs
    let (time, rest) ← perhaps rest (readDayTime rest)
    pure (date ++ time.getD "", rest)
  orElse (labelled "date-time" dated) fun _ => labelled "time" (readTime cs)

end IngestWatch.Toml
