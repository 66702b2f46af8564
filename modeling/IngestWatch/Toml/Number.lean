import IngestWatch.Decimal.Binary64
import IngestWatch.Toml.Trouble

/-!
The numbers of TOML: whole numbers in four bases and floating-point numbers, with
single underscores between digits.
-/

namespace IngestWatch.Toml

open Decimal

def isDigit (c : Char) : Bool :=
  '0' ≤ c && c ≤ '9'

def isHexDigit (c : Char) : Bool :=
  isDigit c || ('a' ≤ c && c ≤ 'f') || ('A' ≤ c && c ≤ 'F')

/-- The value of a digit in bases up to sixteen. -/
def digitValue (c : Char) : Nat :=
  if isDigit c then c.toNat - 0x30
  else if 'a' ≤ c then c.toNat - 0x57 else c.toNat - 0x37

def ofDigits (base : Nat) (digits : List Char) : Nat :=
  digits.foldl (fun n c => n * base + digitValue c) 0

/-- More digits after the first; an underscore must stand between two. -/
def moreDigits (isDigit : Char → Bool) : List Char → Reading (List Char × List Char)
  | [] => .ok ([], [])
  | c :: rest =>
    if isDigit c then
      (moreDigits isDigit rest).map fun (digits, rest) => (c :: digits, rest)
    else if c = '_' then
      match rest with
      | d :: rest =>
        if isDigit d then
          (moreDigits isDigit rest).map fun (digits, rest) => (d :: digits, rest)
        else firmly (wanting "digit" (.error .plain))
      | [] => firmly (wanting "digit" (.error .plain))
    else .ok ([], c :: rest)

/-- One digit and more. -/
def someDigits (isDigit : Char → Bool) : List Char → Reading (List Char × List Char)
  | c :: rest =>
    if isDigit c then
      (moreDigits isDigit rest).map fun (digits, rest) => (c :: digits, rest)
    else .error .plain
  | [] => .error .plain

/-- A sign, which may be missing. -/
def readSign : List Char → Bool × List Char
  | '+' :: rest => (false, rest)
  | '-' :: rest => (true, rest)
  | rest => (false, rest)

/-- The sign and the digits of a decimal number; it is zero or does not start with zero. -/
def decimalDigits (cs : List Char) : Reading ((Bool × List Char) × List Char) :=
  let (negative, cs) := readSign cs
  labelled "integer" <|
    match cs with
    | '0' :: rest => .ok ((negative, ['0']), rest)
    | cs => (someDigits isDigit cs).map fun (digits, rest) => ((negative, digits), rest)

/-! ## Whole numbers -/

/-- A whole number that fits 64 bits with a sign. -/
def boundedInt (n : Int) : Reading Int :=
  if n < -0x8000000000000000 then firmly (.error (.ofCause .tooSmall))
  else if 0x7fffffffffffffff < n then firmly (.error (.ofCause .tooLarge))
  else .ok n

/-- The digits after the mark of a base. -/
def readBase (base : Nat) (isDigit : Char → Bool) (label : String) (cs : List Char) :
    Reading (Int × List Char) := do
  let (digits, rest) ← labelled label (firmly (someDigits isDigit cs))
  pure (← boundedInt (ofDigits base digits), rest)

def readInt : List Char → Reading (Int × List Char)
  | '0' :: 'x' :: rest => readBase 16 isHexDigit "hexadecimal integer" rest
  | '0' :: 'o' :: rest =>
    readBase 8 (fun c => '0' ≤ c && c ≤ '7') "octal integer" rest
  | '0' :: 'b' :: rest =>
    readBase 2 (fun c => c = '0' || c = '1') "binary integer" rest
  | cs => do
    let ((negative, digits), rest) ← decimalDigits cs
    let n := ofDigits 10 digits
    pure (← boundedInt (if negative then -n else n), rest)

/-! ## Floating-point numbers -/

/-- A signed power of ten after its `e`. -/
def readPower (cs : List Char) : Reading (Int × List Char) := do
  let (negative, cs) := readSign cs
  let (digits, rest) ← firmly (someDigits isDigit cs)
  let n := ofDigits 10 digits
  pure (if negative then -n else n, rest)

/-- A power of ten, which may be missing. -/
def readPower? : List Char → Reading (Int × List Char)
  | 'e' :: rest => readPower rest
  | 'E' :: rest => readPower rest
  | rest => .ok (0, rest)

/-- The fraction and the power of ten of a floating-point number; one of them must be
there. -/
def readFraction : List Char → Reading ((List Char × Int) × List Char)
  | '.' :: rest => do
    let (digits, rest) ← firmly (wanting "digit" (someDigits isDigit rest))
    let (power, rest) ← readPower? rest
    pure ((digits, power), rest)
  | 'e' :: rest => (readPower rest).map fun (power, rest) => (([], power), rest)
  | 'E' :: rest => (readPower rest).map fun (power, rest) => (([], power), rest)
  | _ => .error .plain

/-- A number with a fraction or a power of ten. One that is too large is refused, one
that is too small below zero is negative infinity. -/
def readDecimal (cs : List Char) : Reading (Extended × List Char) := do
  let ((negative, digits), rest) ← decimalDigits cs
  let ((fraction, power), rest) ← readFraction rest
  let x := Extended.ofDecimal negative (ofDigits 10 (digits ++ fraction)) (power - fraction.length)
  if x = .infinity false then firmly (.error .plain) else pure (x, rest)

/-- An infinity or no number at all. -/
def readSpecial (cs : List Char) : Reading (Extended × List Char) :=
  let (negative, cs) := readSign cs
  match cs with
  | 'i' :: 'n' :: 'f' :: rest => .ok (.infinity negative, rest)
  | 'n' :: 'a' :: 'n' :: rest => .ok (.notANumber, rest)
  | _ => .error .plain

def readReal (cs : List Char) : Reading (Extended × List Char) :=
  labelled "floating-point number" (orElse (readDecimal cs) fun _ => readSpecial cs)

end IngestWatch.Toml
