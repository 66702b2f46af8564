import IngestWatch.Text.Quoted.Table

/-!
Texts quoted inside a message, so that the reader sees each character of them.
-/

namespace IngestWatch.Text.Quoted

/-- Lower-case hexadecimal digits without leading zeros. -/
def hexChars (n : Nat) : List Char :=
  Nat.toDigits 16 n

/-- A character between quotes; what cannot be seen is shown by its code point. -/
def charForm (c : Char) : List Char :=
  if c = '"' then ['\\', '"']
  else if c = '\\' then ['\\', '\\']
  else if c = '\n' then ['\\', 'n']
  else if c = '\r' then ['\\', 'r']
  else if c = '\t' then ['\\', 't']
  else if c.toNat = 0 then ['\\', '0']
  else if c.toNat < 0x20 ∨ Ranges.contains c.toNat invisible then
    '\\' :: 'u' :: '\x7b' :: hexChars c.toNat ++ ['\x7d']
  else [c]

def chars (s : List Char) : List Char :=
  '"' :: s.flatMap charForm ++ ['"']

end Quoted

/-- The text between double quotes. -/
def quoted (s : String) : String :=
  String.ofList (Quoted.chars s.toList)

end IngestWatch.Text
