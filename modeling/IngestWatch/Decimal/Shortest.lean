import IngestWatch.Decimal.Binary64

/-!
The shortest decimal that reads back as a given binary64 number and, of the
shortest, the one nearest to it. For one digit, two digits and so on the two
neighbours of the exact value on that decimal grid are tested against the
interval of reals that round to the number; the first grid with a hit wins.
-/

namespace IngestWatch.Decimal

/-- How many decimal digits a number has; zero has none. -/
def digitCount (n : Nat) : Nat :=
  if n = 0 then 0 else digitCount (n / 10) + 1

/-- The position `p` with `10 ^ p ≤ num / den < 10 ^ (p + 1)`, for a positive fraction. -/
def leadingPosition (num den : Nat) : Int :=
  if den ≤ num then (digitCount (num / den) : Int) - 1
  else
    let d := digitCount (den / num)
    if den = num * Nat.pow 10 (d - 1) then -((d : Int) - 1) else -(d : Int)

/-- `digits · 10 ^ exponent`, with no trailing zero in `digits`. -/
structure Scientific where
  digits : Nat
  exponent : Int
deriving DecidableEq, Repr

/-- Removes trailing zeros of the digits, at most `fuel` of them. -/
def Scientific.trim : Nat → Scientific → Scientific
  | 0, s => s
  | fuel + 1, s =>
    if s.digits % 10 = 0 then trim fuel ⟨s.digits / 10, s.exponent + 1⟩ else s

/-- The reals that round to a number, in units of a quarter of its last mantissa
bit: from `4 m - below` to `4 m + 2`, ends included iff the mantissa is even. -/
structure Basin where
  mantissa : Nat
  exponent : Int
deriving Repr

namespace Basin

/-- Below a power of two the next number is twice as near. -/
def below (b : Basin) : Nat :=
  if b.mantissa = 0x10000000000000 ∧ -1074 < b.exponent then 1 else 2

/-- Compares `c · 10 ^ p` with `q · 2 ^ (exponent - 2)` exactly. -/
def compareGrid (b : Basin) (c : Nat) (p : Int) (q : Nat) : Ordering :=
  let x := b.exponent - 2
  let left := c * Nat.pow 10 p.toNat * Nat.pow 2 (-x).toNat
  let right := q * Nat.pow 2 x.toNat * Nat.pow 10 (-p).toNat
  compare left right

/-- Is `c · 10 ^ p` read back as the number? -/
def holds (b : Basin) (c : Nat) (p : Int) : Bool :=
  let low := b.compareGrid c p (4 * b.mantissa - b.below)
  let high := b.compareGrid c p (4 * b.mantissa + 2)
  if b.mantissa % 2 = 0 then low != .lt && high != .gt else low == .gt && high == .lt

/-- Of the grid's two neighbours `c` and `c + 1` of the value, the one that reads
back; of two, the nearer, and the even one at a tie. -/
def pick? (b : Basin) (c : Nat) (p : Int) : Option Nat :=
  match b.holds c p, b.holds (c + 1) p with
  | false, false => none
  | true, false => some c
  | false, true => some (c + 1)
  | true, true =>
    -- `c + 1/2` against the value
    match b.compareGrid (2 * c + 1) p (8 * b.mantissa) with
    | .gt => some c
    | .lt => some (c + 1)
    | .eq => some (if c % 2 = 0 then c else c + 1)

end Basin

/-- Tries grids of `count`, `count + 1`, … digits; seventeen always suffice. -/
def shortestFrom (b : Basin) (num den : Nat) (lead : Int) : Nat → Nat → Scientific
  | 0, _ => ⟨0, 0⟩
  | fuel + 1, count =>
    let p := lead + 1 - count
    let c := num * Nat.pow 10 (-p).toNat / (den * Nat.pow 10 p.toNat)
    match b.pick? c p with
    | some d => Scientific.trim (count + 1) ⟨d, p⟩
    | none => shortestFrom b num den lead fuel (count + 1)

/-- The shortest decimal of the absolute value. -/
def Binary64.shortest (x : Binary64) : Scientific :=
  if x.mantissa = 0 then ⟨0, 0⟩
  else
    let m := x.magnitude
    shortestFrom ⟨x.mantissa, x.exponent⟩ m.1 m.2 (leadingPosition m.1 m.2) 18 1

end IngestWatch.Decimal
