import IngestWatch.Json
import IngestWatch.Json.Fault

/-!
The tokens of JSON: blanks, words, strings and numbers. Each scanner takes the
text that remains and gives back what it read and what remains after it.
-/

namespace IngestWatch.Json

open Decimal

def isBlank (c : Char) : Bool :=
  c = ' ' || c = '\n' || c = '\t' || c = '\r'

def skipBlanks (cs : List Char) : List Char :=
  cs.dropWhile isBlank

/-- A number of steps that is enough to read any value at the front of a text: no
character takes more than two of them. -/
def stepsFor (cs : List Char) : Nat :=
  2 * cs.length + 2

/-- Takes the characters of a word one by one. -/
def scanWord : List Char → List Char → Reading (List Char)
  | [], cs => .ok cs
  | _ :: _, [] => .error (Cause.endInValue.before [])
  | w :: word, c :: rest =>
    if c = w then scanWord word rest else .error (Cause.wantedWord.within (c :: rest))

/-! ## Strings -/

def hexValue? (c : Char) : Option Nat :=
  if '0' ≤ c ∧ c ≤ '9' then some (c.toNat - 0x30)
  else if 'a' ≤ c ∧ c ≤ 'f' then some (c.toNat - 0x57)
  else if 'A' ≤ c ∧ c ≤ 'F' then some (c.toNat - 0x37)
  else none

/-- Four hexadecimal digits; a shorter text ends inside the string. -/
def scanHex4 (cs : List Char) : Reading (Nat × List Char) :=
  if byteLength cs < 4 then .error (Cause.endInString.before [])
  else
    match cs with
    | a :: b :: c :: d :: rest =>
      match hexValue? a, hexValue? b, hexValue? c, hexValue? d with
      | some a, some b, some c, some d => .ok (((a * 16 + b) * 16 + c) * 16 + d, rest)
      | _, _, _, _ => .error ⟨.badEscape, byteLength cs - 4⟩
    | _ => .error ⟨.badEscape, byteLength cs - 4⟩

/-- The second half of a surrogate pair, after the first half `high`. -/
def scanLowSurrogate (high : Nat) : List Char → Reading (Char × List Char)
  | [] => .error (Cause.endInString.before [])
  | '\\' :: [] => .error (Cause.endInString.before [])
  | '\\' :: 'u' :: rest => do
    let (low, rest) ← scanHex4 rest
    if low < 0xDC00 ∨ 0xDFFF < low then throw (Cause.loneSurrogate.before rest)
    else pure (Char.ofNat (0x10000 + (high - 0xD800) * 0x400 + (low - 0xDC00)), rest)
  | '\\' :: rest => .error (Cause.unfinishedSurrogate.within rest)
  | rest => .error (Cause.unfinishedSurrogate.within rest)

/-- The character named by an escape, after its backslash. -/
def scanEscape : List Char → Reading (Char × List Char)
  | [] => .error (Cause.endInString.before [])
  | '"' :: rest => .ok ('"', rest)
  | '\\' :: rest => .ok ('\\', rest)
  | '/' :: rest => .ok ('/', rest)
  | 'b' :: rest => .ok (Char.ofNat 8, rest)
  | 'f' :: rest => .ok (Char.ofNat 12, rest)
  | 'n' :: rest => .ok ('\n', rest)
  | 'r' :: rest => .ok ('\r', rest)
  | 't' :: rest => .ok ('\t', rest)
  | 'u' :: rest => do
    let (n, rest) ← scanHex4 rest
    if 0xDC00 ≤ n ∧ n ≤ 0xDFFF then throw (Cause.loneSurrogate.before rest)
    else if 0xD800 ≤ n ∧ n ≤ 0xDBFF then scanLowSurrogate n rest
    else pure (Char.ofNat n, rest)
  | rest => .error (Cause.badEscape.within rest)

/-- The characters up to the closing quote; `fuel` bounds the steps and the length
of the text is always enough. -/
def scanStringFrom : Nat → List Char → Reading (List Char × List Char)
  | 0, cs => .error (Cause.endInString.before cs)
  | _ + 1, [] => .error (Cause.endInString.before [])
  | fuel + 1, c :: rest =>
    if c = '"' then .ok ([], rest)
    else if c = '\\' then do
      let (e, rest) ← scanEscape rest
      let (s, rest) ← scanStringFrom fuel rest
      pure (e :: s, rest)
    else if c.toNat < 0x20 then .error (Cause.controlInString.before rest)
    else do
      let (s, rest) ← scanStringFrom fuel rest
      pure (c :: s, rest)

/-- A string after its opening quote. -/
def scanString (cs : List Char) : Reading (String × List Char) := do
  let (s, rest) ← scanStringFrom (cs.length + 1) cs
  pure (String.ofList s, rest)

/-! ## Numbers -/

def isDigit (c : Char) : Bool :=
  '0' ≤ c && c ≤ '9'

def digitValue (c : Char) : Nat :=
  c.toNat - 0x30

/-- Takes digits into the significand as long as it fits 64 bits. -/
def absorbDigits (significand : Nat) : List Char → Nat × List Char
  | [] => (significand, [])
  | c :: rest =>
    let next := significand * 10 + digitValue c
    if isDigit c ∧ next < 0x10000000000000000 then absorbDigits next rest else (significand, c :: rest)

/-- `significand · 10 ^ exponent` with one rounding of the significand and one of
the product or quotient by the rounded power of ten; `none` beyond the largest
number. Far below the smallest number the division is done in two steps. -/
def approximate (negative : Bool) (significand : Nat) (exponent : Int) : Option Binary64 := do
  let f ← Binary64.ofRatio negative significand 1
  let power (k : Nat) := Binary64.ofRatio false (Nat.pow 10 k) 1
  if f.mantissa = 0 then pure f
  else if 308 < exponent then none
  else if 0 ≤ exponent then f.mul (← power exponent.toNat)
  else if -308 ≤ exponent then f.div (← power (-exponent).toNat)
  else
    let g ← f.div (← power 308)
    if -616 ≤ exponent then g.div (← power (-exponent - 308).toNat)
    else pure (Binary64.zero negative)

def finishReal (negative : Bool) (significand : Nat) (exponent : Int) (rest : List Char) :
    Reading (Json × List Char) :=
  match approximate negative significand exponent with
  | some x => .ok (.real x, rest)
  | none => .error (Cause.numberOutOfRange.before rest)

/-- The digits of an exponent. Past 31 bits a positive exponent of a number that is
not zero is out of range at that digit, and any other exponent leaves zero. -/
def scanExponentDigits (negative : Bool) (significand : Nat) (start : Int) (up : Bool)
    (exponent : Nat) : List Char → Reading (Json × List Char)
  | [] => finishReal negative significand (if up then start + exponent else start - exponent) []
  | c :: rest =>
    if isDigit c then
      let next := exponent * 10 + digitValue c
      if next < 0x80000000 then scanExponentDigits negative significand start up next rest
      else if significand ≠ 0 ∧ up then .error (Cause.numberOutOfRange.before rest)
      else .ok (.real (Binary64.zero negative), rest.dropWhile isDigit)
    else
      finishReal negative significand (if up then start + exponent else start - exponent) (c :: rest)

/-- An exponent after its `e`. -/
def scanExponent (negative : Bool) (significand : Nat) (start : Int) (cs : List Char) :
    Reading (Json × List Char) :=
  let (up, cs) := match cs with
    | '+' :: rest => (true, rest)
    | '-' :: rest => (false, rest)
    | rest => (true, rest)
  match cs with
  | [] => .error (Cause.endInValue.before [])
  | c :: rest =>
    if isDigit c then scanExponentDigits negative significand start up (digitValue c) rest
    else .error (Cause.badNumber.within (c :: rest))

/-- What may follow the digits of a number that has a fraction or many digits. -/
def scanExponent? (negative : Bool) (significand : Nat) (exponent : Int) : List Char → Reading (Json × List Char)
  | 'e' :: rest => scanExponent negative significand exponent rest
  | 'E' :: rest => scanExponent negative significand exponent rest
  | rest => finishReal negative significand exponent rest

/-- A fraction after its point. Digits beyond 64 bits of significand are dropped. -/
def scanFraction (negative : Bool) (significand : Nat) (start : Int) (cs : List Char) :
    Reading (Json × List Char) :=
  let (significand, rest) := absorbDigits significand cs
  let exponent := start - (cs.length - rest.length : Nat)
  match rest with
  | [] =>
    if cs.isEmpty then .error (Cause.endInValue.within [])
    else finishReal negative significand exponent []
  | c :: tail =>
    if isDigit c then scanExponent? negative significand exponent (tail.dropWhile isDigit)
    else if rest.length = cs.length then .error (Cause.badNumber.within (c :: tail))
    else scanExponent? negative significand exponent (c :: tail)

/-- A whole number, exact where it fits 64 bits; `-0` is the negative zero. -/
def wholeNumber (negative : Bool) (significand : Nat) (rest : List Char) : Reading (Json × List Char) :=
  if ¬ negative then .ok (.int significand, rest)
  else if significand = 0 ∨ 0x8000000000000000 < significand then finishReal true significand 0 rest
  else .ok (.int (-(significand : Int)), rest)

/-- What follows the digits before the point. -/
def scanAfterInteger (negative : Bool) (significand : Nat) : List Char → Reading (Json × List Char)
  | '.' :: rest => scanFraction negative significand 0 rest
  | 'e' :: rest => scanExponent negative significand 0 rest
  | 'E' :: rest => scanExponent negative significand 0 rest
  | rest => wholeNumber negative significand rest

/-- A number after its sign. -/
def scanNumber (negative : Bool) : List Char → Reading (Json × List Char)
  | [] => .error (Cause.endInValue.before [])
  | c :: rest =>
    if c = '0' then
      match rest with
      | d :: tail =>
        if isDigit d then .error (Cause.badNumber.within (d :: tail))
        else scanAfterInteger negative 0 (d :: tail)
      | [] => scanAfterInteger negative 0 []
    else if isDigit c then
      let (significand, rest) := absorbDigits (digitValue c) rest
      let extra := rest.takeWhile isDigit
      if extra.isEmpty then scanAfterInteger negative significand rest
      else
        match rest.drop extra.length with
        | '.' :: rest => scanFraction negative significand extra.length rest
        | rest => scanExponent? negative significand extra.length rest
    else .error (Cause.badNumber.within (c :: rest))

end IngestWatch.Json
