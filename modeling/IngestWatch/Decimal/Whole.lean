/-!
Whole numbers as a person writes them: a sign that may be missing, then digits only.
-/

namespace IngestWatch.Decimal

/-- Why a text is no number of the wanted range. -/
inductive NumberFault where
  | empty
  | badDigit
  | tooLarge
  | tooSmall
deriving DecidableEq, Repr

def NumberFault.message : NumberFault → String
  | .empty => "cannot parse integer from empty string"
  | .badDigit => "invalid digit found in string"
  | .tooLarge => "number too large to fit in target type"
  | .tooSmall => "number too small to fit in target type"

/-- Takes digits one by one; the first that is none, or that leads past the bounds, is
reported. -/
def takeDigits (negative : Bool) (low high : Int) : Int → List Char → Except NumberFault Int
  | n, [] => .ok n
  | n, c :: rest =>
    if '0' ≤ c ∧ c ≤ '9' then
      let digit : Int := c.toNat - 0x30
      let next := if negative then n * 10 - digit else n * 10 + digit
      if next < low then .error .tooSmall
      else if high < next then .error .tooLarge
      else takeDigits negative low high next rest
    else .error .badDigit

/-- The number between two bounds that a whole text names. A minus sign is no more than
a wrong digit where no number below zero is wanted. -/
def readWhole (low high : Int) (text : String) : Except NumberFault Int :=
  match text.toList with
  | [] => .error .empty
  | ['+'] => .error .badDigit
  | ['-'] => .error .badDigit
  | '+' :: rest => takeDigits false low high 0 rest
  | '-' :: rest =>
    if low < 0 then takeDigits true low high 0 rest else .error .badDigit
  | digits => takeDigits false low high 0 digits

def readUInt64 (text : String) : Except NumberFault UInt64 :=
  (readWhole 0 0xffffffffffffffff text).map fun n => UInt64.ofNat n.toNat

def readInt64 (text : String) : Except NumberFault Int :=
  readWhole (-0x8000000000000000) 0x7fffffffffffffff text

end IngestWatch.Decimal
