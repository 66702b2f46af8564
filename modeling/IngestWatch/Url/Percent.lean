import IngestWatch.Text.Utf8

/-!
Percent-coding of query values: the unreserved ASCII characters stand for
themselves, every other byte of the UTF-8 form is `%` and two capital
hexadecimal digits.
-/

namespace IngestWatch.Url

/-- The characters that need no coding in a value. -/
def isUnreserved (c : Char) : Bool :=
  c.isAlphanum || c = '-' || c = '.' || c = '_' || c = '~'

/-- One capital hexadecimal digit. -/
def hexDigit (n : Nat) : Char :=
  if n < 10 then Char.ofNat (0x30 + n) else Char.ofNat (0x37 + n)

def hexValue? (c : Char) : Option Nat :=
  if '0' ≤ c ∧ c ≤ '9' then some (c.toNat - 0x30)
  else if 'a' ≤ c ∧ c ≤ 'f' then some (c.toNat - 0x57)
  else if 'A' ≤ c ∧ c ≤ 'F' then some (c.toNat - 0x37)
  else none

def percentByte (b : UInt8) : List Char :=
  ['%', hexDigit (b.toNat / 16), hexDigit (b.toNat % 16)]

/-- The coded form of a character outside a set of those left as they are. -/
def percentChar (keep : Char → Bool) (c : Char) : List Char :=
  if keep c then [c] else (String.utf8EncodeChar c).flatMap percentByte

/-- The coded form of a query value. -/
def encodeValue (s : String) : String :=
  String.ofList (s.toList.flatMap (percentChar isUnreserved))

/-- The bytes a coded text stands for; a `%` without two digits stands for itself. -/
def percentDecode : List Char → List UInt8
  | [] => []
  | [c] => String.utf8EncodeChar c
  | [c, d] => String.utf8EncodeChar c ++ String.utf8EncodeChar d
  | c :: h :: l :: rest =>
    if c = '%' then
      match hexValue? h, hexValue? l with
      | some high, some low => UInt8.ofNat (high * 16 + low) :: percentDecode rest
      | _, _ => String.utf8EncodeChar c ++ percentDecode (h :: l :: rest)
    else String.utf8EncodeChar c ++ percentDecode (h :: l :: rest)

end IngestWatch.Url
