import IngestWatch.Text.Blank

/-!
Hosts that are numbers: addresses of four bytes, written in up to four parts, and
addresses of eight groups of sixteen bits.
-/

namespace IngestWatch.Url

/-! ## Four bytes -/

/-- What a part of an address is: no number, a number past 32 bits, or a number. -/
inductive Part where
  | notNumber
  | tooLarge
  | number (n : Nat)
deriving DecidableEq, Repr

def digitIn? (base : Nat) (c : Char) : Option Nat :=
  let n := c.toNat
  let d := if 0x30 ≤ n ∧ n ≤ 0x39 then n - 0x30
    else if 0x61 ≤ n ∧ n ≤ 0x66 then n - 0x57
    else if 0x41 ≤ n ∧ n ≤ 0x46 then n - 0x37
    else 16
  if d < base then some d else none

/-- Digits of a base; none at all are zero. -/
def Part.ofDigits (base : Nat) (cs : List Char) : Part :=
  match cs.mapM (digitIn? base) with
  | none => .notNumber
  | some digits =>
    let n := digits.foldl (fun n d => n * base + d) 0
    if n < 0x100000000 then .number n else .tooLarge

/-- A number in base ten, in base eight after a zero, or in base sixteen after `0x`. -/
def Part.read : List Char → Part
  | [] => .notNumber
  | '0' :: 'x' :: rest => .ofDigits 16 rest
  | '0' :: 'X' :: rest => .ofDigits 16 rest
  | '0' :: c :: rest => .ofDigits 8 (c :: rest)
  | cs => .ofDigits 10 cs

/-- The parts of a host between its dots, without the empty one that a dot at its end
leaves. -/
def hostParts (host : List Char) : List (List Char) :=
  let parts := Text.splitAt '.' host
  if parts.length ≠ 1 ∧ parts.getLast? = some [] then parts.dropLast else parts

/-- A host whose last part is a number can only be an address. -/
def endsInNumber (host : List Char) : Bool :=
  match (hostParts host).getLast? with
  | none => false
  | some last =>
    (!last.isEmpty && last.all fun c => (digitIn? 10 c).isSome) || Part.read last ≠ .notNumber

/-- The address of its parts: the last part fills all bytes that are left. -/
def readIpv4 (host : List Char) : Option Nat := do
  let parts := hostParts host
  if 4 < parts.length then none
  else
    let numbers ← parts.mapM fun p => match Part.read p with
      | .number n => some n
      | _ => none
    let last ← numbers.getLast?
    let front := numbers.dropLast
    if Nat.pow 256 (4 - front.length) ≤ last ∨ front.any (255 < ·) then none
    else some (front.zipIdx.foldl (fun sum (n, i) => sum + n * Nat.pow 256 (3 - i)) last)

def ipv4Text (address : Nat) : String :=
  let byte (i : Nat) : Nat := address / Nat.pow 256 i % 256
  s!"{byte 3}.{byte 2}.{byte 1}.{byte 0}"

/-! ## Eight groups -/

/-- One to four hexadecimal digits, and what remains. -/
def readGroup (cs : List Char) : Option (Nat × List Char) :=
  let digits := (cs.takeWhile fun c => (digitIn? 16 c).isSome).take 4
  if digits.isEmpty then none
  else some (digits.foldl (fun n c => n * 16 + (digitIn? 16 c).getD 0) 0, cs.drop digits.length)

/-- A decimal byte without a zero in front. -/
def readByte (cs : List Char) : Option (Nat × List Char) :=
  let digits := cs.takeWhile fun c => (digitIn? 10 c).isSome
  let n := digits.foldl (fun n c => n * 10 + (digitIn? 10 c).getD 0) 0
  match digits with
  | [] => none
  | ['0'] => some (0, cs.drop 1)
  | '0' :: _ => none
  | _ => if 255 < n then none else some (n, cs.drop digits.length)

/-- The last two groups as four bytes with dots between them, to the end of the text. -/
def readTail (cs : List Char) : Option (List Nat) := do
  let (a, rest) ← readByte cs
  let '.' :: rest := rest | none
  let (b, rest) ← readByte rest
  let '.' :: rest := rest | none
  let (c, rest) ← readByte rest
  let '.' :: rest := rest | none
  let (d, []) ← readByte rest | none
  some [a * 256 + b, c * 256 + d]

/-- Groups with a colon between each two, to the end of the text. `gap` is the number of
groups before two colons, which stand for as many zeros as are missing. -/
def readGroups : Nat → List Nat → Option Nat → List Char → Option (List Nat × Option Nat)
  | 0, _, _, _ => none
  | fuel + 1, groups, gap, cs =>
    if 8 ≤ groups.length then none
    else
      let whole := (cs.takeWhile fun c => (digitIn? 16 c).isSome).length
      match cs with
      | ':' :: rest =>
        if gap.isSome then none
        else if rest.isEmpty then some (groups, some groups.length)
        else readGroups fuel groups (some groups.length) rest
      | cs =>
        if (cs.drop whole).head? = some '.' ∧ 0 < whole ∧ whole ≤ 4 then
          if 6 < groups.length then none
          else (readTail cs).map fun tail => (groups ++ tail, gap)
        else
          match readGroup cs with
          | none => none
          | some (n, []) => some (groups ++ [n], gap)
          | some (n, ':' :: rest) =>
            if rest.isEmpty then none else readGroups fuel (groups ++ [n]) gap rest
          | some (_, _ :: _) => none

/-- The eight groups of an address. -/
def readIpv6 (cs : List Char) : Option (List Nat) := do
  let cs ← match cs with
    | ':' :: ':' :: rest => some (':' :: rest)
    | ':' :: _ => none
    | cs => some cs
  let (groups, gap) ← readGroups (cs.length + 1) [] none cs
  match gap with
  | none => if groups.length = 8 then some groups else none
  | some place =>
    if 8 ≤ groups.length then none
    else some (groups.take place ++ List.replicate (8 - groups.length) 0 ++ groups.drop place)

/-- Lower-case hexadecimal digits. -/
def hexText (n : Nat) : List Char :=
  Nat.toDigits 16 n

/-- The length of the run of zeros at the front. -/
def zeroRun (groups : List Nat) : Nat :=
  (groups.takeWhile (· = 0)).length

/-- The place and length of the first longest run of zeros. -/
def longestZeros : Nat → List Nat → Nat × Nat
  | _, [] => (0, 0)
  | place, g :: rest =>
    let here := zeroRun (g :: rest)
    let later := longestZeros (place + 1) rest
    if later.2 ≤ here then (place, here) else later

/-- Groups joined by colons. -/
def groupsText (groups : List Nat) : List Char :=
  List.intercalate [':'] (groups.map hexText)

/-- Two or more zeros in a row are left out once, where the run is longest. -/
def ipv6Text (groups : List Nat) : String :=
  let (place, length) := longestZeros 0 groups
  String.ofList <|
    if length < 2 then groupsText groups
    else groupsText (groups.take place) ++ [':', ':'] ++ groupsText (groups.drop (place + length))

end IngestWatch.Url
