import IngestWatch.Json
import IngestWatch.Decimal.Shortest

/-!
The two written forms of a JSON value: compact, with no blank at all, and
indented by two spaces a level.
-/

namespace IngestWatch.Json

open Decimal

/-- One lower-case hexadecimal digit. -/
def hexDigit (n : Nat) : Char :=
  if n < 10 then Char.ofNat (0x30 + n) else Char.ofNat (0x57 + n)

/-- A character inside quotes. Quotes, backslashes and the controls below
U+0020 are escaped, everything else stands for itself. -/
def escapeChar (c : Char) : List Char :=
  if c = '"' then ['\\', '"']
  else if c = '\\' then ['\\', '\\']
  else if c = '\n' then ['\\', 'n']
  else if c = '\r' then ['\\', 'r']
  else if c = '\t' then ['\\', 't']
  else if c = Char.ofNat 8 then ['\\', 'b']
  else if c = Char.ofNat 12 then ['\\', 'f']
  else if c.toNat < 0x20 then
    ['\\', 'u', '0', '0', hexDigit (c.toNat / 16), hexDigit (c.toNat % 16)]
  else [c]

def quoteChars (s : List Char) : List Char :=
  '"' :: s.flatMap escapeChar ++ ['"']

/-- The decimal digits of a number, most significant first. -/
def natChars (n : Nat) : List Char :=
  Nat.toDigits 10 n

def intChars (n : Int) : List Char :=
  if n < 0 then '-' :: natChars n.natAbs else natChars n.natAbs

/-- How a binary64 number is laid out: the point stands at `point` digits from the
left; between `-4` and `16` it is written positionally, elsewhere with a signed exponent. -/
def scientificChars (s : Scientific) : List Char :=
  let digits := natChars s.digits
  let point : Int := digits.length + s.exponent
  if 0 ≤ s.exponent ∧ point ≤ 16 then
    digits ++ List.replicate s.exponent.toNat '0' ++ ['.', '0']
  else if 0 < point ∧ point ≤ 16 then
    digits.take point.toNat ++ '.' :: digits.drop point.toNat
  else if -5 < point ∧ point ≤ 0 then
    '0' :: '.' :: List.replicate (-point).toNat '0' ++ digits
  else
    let mark := 'e' :: (if point ≤ 0 then '-' else '+') :: natChars (point - 1).natAbs
    match digits with
    | [d] => d :: mark
    | d :: rest => d :: '.' :: rest ++ mark
    | [] => mark

def realChars (x : Binary64) : List Char :=
  let body := if x.mantissa = 0 then ['0', '.', '0'] else scientificChars x.shortest
  if x.negative then '-' :: body else body

mutual

/-- The compact form. -/
def compactChars : Json → List Char
  | .null => "null".toList
  | .bool true => "true".toList
  | .bool false => "false".toList
  | .int n => intChars n
  | .real x => realChars x
  | .str s => quoteChars s.toList
  | .arr items => '[' :: compactItems items ++ [']']
  | .obj members => '\x7b' :: compactMembers members ++ ['\x7d']

def compactItems : List Json → List Char
  | [] => []
  | [v] => compactChars v
  | v :: rest => compactChars v ++ ',' :: compactItems rest

def compactMembers : List (String × Json) → List Char
  | [] => []
  | [(k, v)] => quoteChars k.toList ++ ':' :: compactChars v
  | (k, v) :: rest => quoteChars k.toList ++ ':' :: compactChars v ++ ',' :: compactMembers rest

end

/-- The text of a value on one line. -/
def compact (v : Json) : String :=
  String.ofList (compactChars v)

/-- A line break followed by two spaces for each level. -/
def breakLine (level : Nat) : List Char :=
  '\n' :: List.replicate (2 * level) ' '

mutual

/-- The indented form; `level` is the depth of the value itself. -/
def prettyChars (level : Nat) : Json → List Char
  | .arr [] => ['[', ']']
  | .arr items => '[' :: prettyItems (level + 1) items ++ breakLine level ++ [']']
  | .obj [] => ['\x7b', '\x7d']
  | .obj members => '\x7b' :: prettyMembers (level + 1) members ++ breakLine level ++ ['\x7d']
  | v => compactChars v

def prettyItems (level : Nat) : List Json → List Char
  | [] => []
  | [v] => breakLine level ++ prettyChars level v
  | v :: rest => breakLine level ++ prettyChars level v ++ ',' :: prettyItems level rest

def prettyMembers (level : Nat) : List (String × Json) → List Char
  | [] => []
  | [(k, v)] => breakLine level ++ quoteChars k.toList ++ ':' :: ' ' :: prettyChars level v
  | (k, v) :: rest =>
    breakLine level ++ quoteChars k.toList ++ ':' :: ' ' :: prettyChars level v
      ++ ',' :: prettyMembers level rest

end

/-- The text of a value over several lines. -/
def pretty (v : Json) : String :=
  String.ofList (prettyChars 0 v)

end IngestWatch.Json
