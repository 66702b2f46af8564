/-!
Punycode: any characters in letters, digits and hyphens of ASCII. The characters of
ASCII come first; then, in ascending order, where each other character is to be put,
as numbers to base 36 whose digits have thresholds that follow the sizes of the
numbers before.
-/

namespace IngestWatch.Url.Punycode

def digitChar (d : Nat) : Char :=
  if d < 26 then Char.ofNat (0x61 + d) else Char.ofNat (0x30 + d - 26)

def digitValue? (c : Char) : Option Nat :=
  let n := c.toNat
  if 0x61 ≤ n ∧ n ≤ 0x7A then some (n - 0x61)
  else if 0x41 ≤ n ∧ n ≤ 0x5A then some (n - 0x41)
  else if 0x30 ≤ n ∧ n ≤ 0x39 then some (n - 0x30 + 26)
  else none

/-- The threshold of the digit at `place`, counted in steps of 36. -/
def threshold (place bias : Nat) : Nat :=
  if place ≤ bias then 1 else if bias + 26 ≤ place then 26 else place - bias

/-- Divides by 35 until the rest is small, counting in steps of 36. -/
def scale (delta place : Nat) : Nat × Nat :=
  if 455 < delta then scale (delta / 35) (place + 36) else (delta, place)
termination_by delta
decreasing_by exact Nat.div_lt_self (by omega) (by omega)

/-- The thresholds after a number `delta`, when `count` characters are there. -/
def adapt (delta count : Nat) (first : Bool) : Nat :=
  let d := if first then delta / 700 else delta / 2
  let (d, place) := scale (d + d / count) 0
  place + 36 * d / (d + 38)

/-! ## Writing -/

/-- The digits of a number; its own size bounds how many there are. -/
def numberDigits (bias : Nat) : Nat → Nat → Nat → List Char
  | 0, _, n => [digitChar n]
  | fuel + 1, place, n =>
    let t := threshold place bias
    if n < t then [digitChar n]
    else digitChar (t + (n - t) % (36 - t))
      :: numberDigits bias fuel (place + 36) ((n - t) / (36 - t))

structure Writer where
  out : List Char
  delta : Nat
  bias : Nat
  count : Nat

/-- Goes over one character while the characters equal to `n` are put. -/
def Writer.pass (basic n : Nat) (w : Writer) (c : Char) : Writer :=
  if c.toNat < n then { w with delta := w.delta + 1 }
  else if c.toNat = n then
    { out := w.out ++ numberDigits w.bias w.delta 36 w.delta
      delta := 0
      bias := adapt w.delta (w.count + 1) (w.count == basic)
      count := w.count + 1 }
  else w

/-- Puts the characters of each code point of an ascending list. -/
def writeAll (cs : List Char) (basic : Nat) : Nat → Writer → List Nat → List Char
  | _, w, [] => w.out
  | low, w, n :: rest =>
    let w := { w with delta := w.delta + (n - low) * (w.count + 1) }
    let w := cs.foldl (Writer.pass basic n) w
    writeAll cs basic (n + 1) { w with delta := w.delta + 1 } rest

/-- The form of characters that are not all ASCII. -/
def encode (cs : List Char) : List Char :=
  let basic := cs.filter fun c => c.toNat < 0x80
  let others := ((cs.filter fun c => 0x80 ≤ c.toNat).map Char.toNat).mergeSort.eraseDups
  basic ++ (if basic.isEmpty then [] else ['-'])
    ++ writeAll cs basic.length 0x80 ⟨[], 0, 72, basic.length⟩ others

/-! ## Reading -/

/-- A number from its digits, and what remains. No number passes 32 bits. -/
def readNumber (bias : Nat) : Nat → Nat → Nat → List Char → Option (Nat × List Char)
  | _, _, _, [] => none
  | place, weight, n, c :: rest => do
    let d ← digitValue? c
    let n := n + d * weight
    let t := threshold place bias
    if 0x100000000 ≤ n then none
    else if d < t then some (n, rest)
    else if 0x100000000 ≤ weight * (36 - t) then none
    else readNumber bias (place + 36) (weight * (36 - t)) n rest

/-- Puts characters among those that are there; `i` is the place after the last. Every
number takes a digit, so the length of the text bounds the steps. -/
def readAll : Nat → Nat → Nat → Nat → List Char → List Char → Option (List Char)
  | _, _, _, _, out, [] => some out
  | 0, _, _, _, _, _ :: _ => none
  | fuel + 1, n, i, bias, out, cs => do
    let (delta, rest) ← readNumber bias 36 1 0 cs
    let count := out.length + 1
    let n := n + (i + delta) / count
    let at_ := (i + delta) % count
    if n.isValidChar then
      readAll fuel n (at_ + 1) (adapt delta count (i == 0)) (out.insertIdx at_ (Char.ofNat n)) rest
    else none

/-- The characters that a text stands for. -/
def decode? (cs : List Char) : Option (List Char) :=
  let tail := (cs.reverse.takeWhile (· ≠ '-')).reverse
  let basic := (cs.take (cs.length - tail.length)).dropLast
  readAll cs.length 0x80 0 72 basic tail

end IngestWatch.Url.Punycode
