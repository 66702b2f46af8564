import IngestWatch.Toml.Blank
import IngestWatch.Toml.Number

/-!
The four kinds of strings of TOML, and keys.
-/

namespace IngestWatch.Toml

/-- May the character stand for itself in a string with escapes? -/
def inBasic (c : Char) : Bool :=
  inComment c && c ≠ '"' && c ≠ '\\'

/-- May the character stand in a string without escapes? -/
def inLiteral (c : Char) : Bool :=
  inComment c && c ≠ '\''

/-! ## Escapes -/

/-- The character with a code point of so many hexadecimal digits. -/
def hexEscape (count : Nat) (label : String) (cs : List Char) : Reading (Char × List Char) :=
  firmly <| labelled label <|
    let digits := (cs.takeWhile isHexDigit).take count
    let n := ofDigits 16 digits
    if digits.length ≠ count then .error .plain
    else if n.isValidChar then .ok (Char.ofNat n, cs.drop count)
    else .error (.ofCause .outOfRange)

/-- The letters that may follow a backslash. -/
def escapeNames : List String :=
  ["`b`", "`f`", "`n`", "`r`", "`t`", "`u`", "`U`", "`\\`", "`\"`"]

/-- The character an escape stands for, after its backslash. -/
def readEscape : List Char → Reading (Char × List Char)
  | [] => .error .plain
  | 'b' :: rest => .ok (Char.ofNat 8, rest)
  | 'f' :: rest => .ok (Char.ofNat 12, rest)
  | 'n' :: rest => .ok ('\n', rest)
  | 'r' :: rest => .ok ('\r', rest)
  | 't' :: rest => .ok ('\t', rest)
  | 'u' :: rest => hexEscape 4 "unicode 4-digit hex code" rest
  | 'U' :: rest => hexEscape 8 "unicode 8-digit hex code" rest
  | '\\' :: rest => .ok ('\\', rest)
  | '"' :: rest => .ok ('"', rest)
  | _ => .error ⟨true, some "escape sequence", escapeNames, none⟩

/-! ## Strings on one line -/

/-- The characters of a string with escapes and its closing quote; the length of the
text is fuel enough. -/
def basicRest : Nat → List Char → Reading (List Char × List Char)
  | fuel + 1, c :: rest =>
    if inBasic c then (basicRest fuel rest).map fun (s, rest) => (c :: s, rest)
    else if c = '"' then .ok ([], rest)
    else if c = '\\' then do
      let (e, rest) ← perhaps rest (readEscape rest)
      match e with
      | some e => (basicRest fuel rest).map fun (s, rest) => (e :: s, rest)
      | none => firmly (labelled "basic string" (.error .plain))
    else firmly (labelled "basic string" (.error .plain))
  | _, _ => firmly (labelled "basic string" (.error .plain))

/-- A string with escapes, after its opening quote. -/
def readBasic (cs : List Char) : Reading (List Char × List Char) :=
  basicRest (cs.length + 1) cs

/-- A string without escapes, after its opening quote. -/
def readLiteral (cs : List Char) : Reading (List Char × List Char) :=
  match cs.dropWhile inLiteral with
  | '\'' :: rest => .ok (cs.takeWhile inLiteral, rest)
  | _ => firmly (labelled "literal string" (.error .plain))

/-! ## Strings over several lines -/

/-- The text after line ends that a backslash at a line's end hides, if there is one. -/
def afterHidden? (cs : List Char) : Option (List Char) :=
  (afterNewline? (skipBlanks cs)).map skipBlankLines

/-- The next character of a string over several lines, if it is not a quote; nothing
is added by a hidden line end. -/
def lineContent (escapes : Bool) : List Char → Reading (Option (List Char) × List Char)
  | [] => .ok (none, [])
  | c :: rest =>
    match afterNewline? (c :: rest) with
    | some rest => .ok (some ['\n'], rest)
    | none =>
      if escapes ∧ c = '\\' then
        match afterHidden? rest with
        | some rest => .ok (some [], rest)
        | none =>
          perhaps (c :: rest) ((readEscape rest).map fun (e, rest) => ([e], rest))
      else if (if escapes then inBasic c else inLiteral c) then .ok (some [c], rest)
      else .ok (none, c :: rest)

/-- The characters up to three closing quotes. One or two quotes may stand anywhere,
also right before the closing ones. -/
def linesRest (quote : Char) (escapes : Bool) : Nat → List Char → Reading (List Char × List Char)
  | 0, _ => firmly (.error .plain)
  | fuel + 1, cs => do
    let quotes := (cs.takeWhile (· = quote)).length
    if 3 ≤ quotes then
      let extra := min (quotes - 3) 2
      pure (List.replicate extra quote, cs.drop (extra + 3))
    else if 0 < quotes then
      let (s, rest) ← linesRest quote escapes fuel (cs.drop quotes)
      pure (List.replicate quotes quote ++ s, rest)
    else
      let (part, rest) ← lineContent escapes cs
      match part with
      | some part =>
        let (s, rest) ← linesRest quote escapes fuel rest
        pure (part ++ s, rest)
      | none => firmly (throw .plain)

/-- A string over several lines, after its three opening quotes; a line end right
after them does not belong to it. -/
def readLines (quote : Char) (escapes : Bool) (label : String) (cs : List Char) :
    Reading (List Char × List Char) :=
  let cs := (afterNewline? cs).getD cs
  labelled label (linesRest quote escapes (cs.length + 1) cs)

/-- A string of any kind. -/
def readString : List Char → Reading (List Char × List Char)
  | '"' :: '"' :: '"' :: rest => readLines '"' true "multiline basic string" rest
  | '"' :: rest => readBasic rest
  | '\'' :: '\'' :: '\'' :: rest => readLines '\'' false "multiline literal string" rest
  | '\'' :: rest => readLiteral rest
  | _ => .error .plain

/-! ## Keys -/

/-- May the character stand in a key without quotes? -/
def inBareKey (c : Char) : Bool :=
  isDigit c || ('a' ≤ c && c ≤ 'z') || ('A' ≤ c && c ≤ 'Z') || c = '-' || c = '_'

/-- One part of a key with the blanks around it. -/
def readKeyPart (cs : List Char) : Reading (String × List Char) :=
  let part : Reading (List Char × List Char) := match skipBlanks cs with
    | '"' :: rest => readBasic rest
    | '\'' :: rest => readLiteral rest
    | cs =>
      let bare := cs.takeWhile inBareKey
      if bare.isEmpty then .error .plain else .ok (bare, cs.drop bare.length)
  part.map fun (part, rest) => (String.ofList part, skipBlanks rest)

/-- The parts of a key after its first, as far as they go. -/
def moreKeyParts : Nat → List Char → Reading (List String × List Char)
  | fuel + 1, '.' :: rest => do
    let (part, after) ← perhaps rest (readKeyPart rest)
    match part with
    | some part => (moreKeyParts fuel after).map fun (parts, rest) => (part :: parts, rest)
    | none => pure ([], '.' :: rest)
  | _, cs => .ok ([], cs)

/-- How deep arrays, inline tables and keys may nest. -/
def depthLimit : Nat := 80

/-- A key: the path of tables down to it, and its last part. -/
def readKey (cs : List Char) : Reading ((List String × String) × List Char) := do
  let ((first, more), rest) ← labelled "key" do
    let (first, rest) ← readKeyPart cs
    let (more, rest) ← moreKeyParts rest.length rest
    pure ((first, more), rest)
  let parts := first :: more
  if depthLimit ≤ parts.length then throw (.ofCause .tooDeep)
  else pure ((parts.dropLast, more.getLast?.getD first), rest)

/-- A key as it would be written: bare if it can be, else between quotes. -/
def keyText (key : String) : String :=
  let escape (c : Char) : List Char :=
    let n := c.toNat
    if c = '"' then ['\\', '"']
    else if c = '\\' then ['\\', '\\']
    else if n = 8 then ['\\', 'b']
    else if c = '\t' then ['\\', 't']
    else if c = '\n' then ['\\', 'n']
    else if n = 12 then ['\\', 'f']
    else if c = '\r' then ['\\', 'r']
    else if n < 0x20 ∨ n = 0x7F then
      '\\' :: 'u' :: '0' :: '0' :: [n / 16, n % 16].map fun d =>
        if d < 10 then Char.ofNat (0x30 + d) else Char.ofNat (0x37 + d)
    else [c]
  if key ≠ "" ∧ key.toList.all inBareKey then key
  else String.ofList ('"' :: key.toList.flatMap escape ++ ['"'])

end IngestWatch.Toml
