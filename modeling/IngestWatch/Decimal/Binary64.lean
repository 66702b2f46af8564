/-!
Finite binary64 numbers as exact dyadic values. All rounding is done on
natural numbers, so every result can be computed and reasoned about without
the machine's floating-point unit.
-/

namespace IngestWatch.Decimal

/-- A finite binary64 number, `± mantissa · 2 ^ exponent`. Rounding yields the
form with the mantissa below `2 ^ 53` and the exponent at least `-1074`. -/
structure Binary64 where
  negative : Bool
  mantissa : Nat
  exponent : Int
deriving DecidableEq, Repr

namespace Binary64

def zero (negative : Bool) : Binary64 := ⟨negative, 0, -1074⟩

/-- `num / (den · 2 ^ e)` as a fraction of natural numbers. -/
def scaled (num den : Nat) (e : Int) : Nat × Nat :=
  if 0 ≤ e then (num, den * Nat.pow 2 e.toNat) else (num * Nat.pow 2 (-e).toNat, den)

/-- The quotient rounded to the nearest integer, a half to the even neighbour. -/
def roundHalfEven (num den : Nat) : Nat :=
  let q := num / den
  let r := num % den
  if den < 2 * r then q + 1
  else if 2 * r < den then q
  else if q % 2 = 0 then q else q + 1

/-- The exponent of the last mantissa bit of `num / den`: the mantissa gets 53
bits, fewer only where the exponent would pass below `-1074`. -/
def unitExponent (num den : Nat) : Int :=
  let guess : Int := (Nat.log2 num : Int) - (Nat.log2 den : Int) - 52
  let s := scaled num den guess
  let e := if s.1 / s.2 < 0x10000000000000 then guess - 1 else guess
  max e (-1074)

/-- The binary64 number nearest to `num / den`, a tie to the even mantissa;
`none` where that lies beyond the largest finite number. -/
def ofRatio (negative : Bool) (num den : Nat) : Option Binary64 :=
  if num = 0 then some (zero negative)
  else
    let e := unitExponent num den
    let s := scaled num den e
    let m := roundHalfEven s.1 s.2
    let (m, e) := if m = 0x20000000000000 then (0x10000000000000, e + 1) else (m, e)
    if 971 < e then none else some ⟨negative, m, e⟩

/-- The number nearest to `mantissa · 2 ^ exponent`. -/
def ofDyadic (negative : Bool) (mantissa : Nat) (exponent : Int) : Option Binary64 :=
  if 0 ≤ exponent then ofRatio negative (mantissa * Nat.pow 2 exponent.toNat) 1
  else ofRatio negative mantissa (Nat.pow 2 (-exponent).toNat)

/-- The number nearest to `digits · 10 ^ exponent`. Exponents so large or so
small that they decide the answer alone are not computed. -/
def ofDecimal (negative : Bool) (digits : Nat) (exponent : Int) : Option Binary64 :=
  let size := (Nat.log2 digits + 1 : Int)
  if digits = 0 then some (zero negative)
  else if 400 < exponent then none
  else if exponent + size < -400 then some (zero negative)
  else if 0 ≤ exponent then ofRatio negative (digits * Nat.pow 10 exponent.toNat) 1
  else ofRatio negative digits (Nat.pow 10 (-exponent).toNat)

def mul (x y : Binary64) : Option Binary64 :=
  ofDyadic (x.negative != y.negative) (x.mantissa * y.mantissa) (x.exponent + y.exponent)

/-- Division by a number that is not zero. -/
def div (x y : Binary64) : Option Binary64 :=
  let s := scaled x.mantissa y.mantissa (y.exponent - x.exponent)
  ofRatio (x.negative != y.negative) s.1 s.2

/-- The exact absolute value as a fraction. -/
def magnitude (x : Binary64) : Nat × Nat :=
  scaled x.mantissa 1 (-x.exponent)

end Binary64

/-- What a text can name: a finite number, an infinity, or no number at all. -/
inductive Extended where
  | finite (value : Binary64)
  | infinity (negative : Bool)
  | notANumber
deriving DecidableEq, Repr

/-- The nearest number to a decimal, overflowing to an infinity. -/
def Extended.ofDecimal (negative : Bool) (digits : Nat) (exponent : Int) : Extended :=
  match Binary64.ofDecimal negative digits exponent with
  | some x => .finite x
  | none => .infinity negative

end IngestWatch.Decimal
