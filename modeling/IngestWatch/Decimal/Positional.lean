import IngestWatch.Decimal.Shortest

/-!
Numbers written out without an exponent, however long that gets.
-/

namespace IngestWatch.Decimal

/-- All digits, with a point and at least one digit on both sides of it. -/
def Scientific.positional (s : Scientific) : List Char :=
  let digits := Nat.toDigits 10 s.digits
  if 0 ≤ s.exponent then digits ++ List.replicate s.exponent.toNat '0' ++ ['.', '0']
  else
    let places := (-s.exponent).toNat
    let padded := List.replicate (places + 1 - digits.length) '0' ++ digits
    padded.take (padded.length - places) ++ '.' :: padded.drop (padded.length - places)

/-- The shortest digits that read back, written positionally. -/
def Extended.positional : Extended → String
  | .finite x =>
    let body := if x.mantissa = 0 then ['0', '.', '0'] else x.shortest.positional
    String.ofList (if x.negative then '-' :: body else body)
  | .infinity true => "-inf"
  | .infinity false => "inf"
  | .notANumber => "NaN"

end IngestWatch.Decimal
