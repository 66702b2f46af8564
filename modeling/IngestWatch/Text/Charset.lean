import IngestWatch.Text.CodePage.Table
import IngestWatch.Text.Utf8

/-!
The text of bytes in a character set that goes by a name. Bytes that stand for nothing
become U+FFFD, so every sequence of bytes has a text.
-/

namespace IngestWatch.Text

/-- How the characters of a text are written as bytes. -/
inductive Charset where
  | utf8
  /-- Units of two bytes, the higher one first or last. -/
  | utf16 (highFirst : Bool)
  /-- One byte a character; the characters from 0x80 on. -/
  | page (upper : List Char)
  /-- Several bytes a character, by a table that is not kept here. -/
  | foreign
  /-- Bytes that are not to be read at all. -/
  | unreadable

namespace Charset

/-! ## Names -/

def isAsciiBlank (c : Char) : Bool :=
  c = '\t' || c = '\n' || c.toNat = 0x0C || c = '\r' || c = ' '

def utf8Labels : List String :=
  ["unicode-1-1-utf-8", "unicode11utf8", "unicode20utf8", "utf-8", "utf8", "x-unicode20utf8"]

def utf16LowFirstLabels : List String :=
  ["csunicode", "iso-10646-ucs-2", "ucs-2", "unicode", "unicodefeff", "utf-16", "utf-16le"]

def utf16HighFirstLabels : List String :=
  ["unicodefffe", "utf-16be"]

def unreadableLabels : List String :=
  ["csiso2022kr", "hz-gb-2312", "iso-2022-cn", "iso-2022-cn-ext", "iso-2022-kr", "replacement"]

/-- The names of the sets for Chinese, Japanese and Korean. -/
def foreignLabels : List String :=
  ["chinese", "csgb2312", "csiso58gb231280", "gb2312", "gb_2312", "gb_2312-80", "gbk", "iso-ir-58",
    "x-gbk", "gb18030", "big5", "big5-hkscs", "cn-big5", "csbig5", "x-x-big5",
    "cseucpkdfmtjapanese", "euc-jp", "x-euc-jp", "csiso2022jp", "iso-2022-jp", "csshiftjis",
    "ms932", "ms_kanji", "shift-jis", "shift_jis", "sjis", "windows-31j", "x-sjis", "cseuckr",
    "csksc56011987", "euc-kr", "iso-ir-149", "korean", "ks_c_5601-1987", "ks_c_5601-1989",
    "ksc5601", "ksc_5601", "windows-949"]

/-- The upper half of the set whose characters are the last of the private ones. -/
def privateUpper : List Char :=
  (List.range 128).map fun n => Char.ofNat (0xF780 + n)

/-- The set of a name, without regard to case and to blanks around it. -/
def ofLabel? (label : String) : Option Charset :=
  let trimmed := dropEndWhile (label.toList.dropWhile isAsciiBlank)
  let name := (String.ofList trimmed).toLower
  if utf8Labels.contains name then some .utf8
  else if utf16LowFirstLabels.contains name then some (.utf16 false)
  else if utf16HighFirstLabels.contains name then some (.utf16 true)
  else if unreadableLabels.contains name then some .unreadable
  else if foreignLabels.contains name then some .foreign
  else if name = "x-user-defined" then some (.page privateUpper)
  else (CodePage.all.find? (·.labels.contains name)).map fun p =>
    .page (String.join p.upper).toList
where
  dropEndWhile (cs : List Char) : List Char := (cs.reverse.dropWhile isAsciiBlank).reverse

/-! ## Reading -/

/-- The units of pairs of bytes; a byte left over belongs to none. -/
def units (highFirst : Bool) : List UInt8 → List Nat × Bool
  | a :: b :: rest =>
    let (us, odd) := units highFirst rest
    ((if highFirst then a.toNat * 256 + b.toNat else b.toNat * 256 + a.toNat) :: us, odd)
  | [_] => ([], true)
  | [] => ([], false)

def isHigh (u : Nat) : Bool :=
  0xD800 ≤ u && u < 0xDC00

def isLow (u : Nat) : Bool :=
  0xDC00 ≤ u && u < 0xE000

/-- The characters of units. A high unit and a low one make one character; `odd` says
whether a byte is left over, which together with a high unit at the end is one fault. -/
def ofUnits (odd : Bool) : List Nat → List Char
  | [] => if odd then ['\ufffd'] else []
  | [u] =>
    if isHigh u then ['\ufffd']
    else (if isLow u then '\ufffd' else Char.ofNat u) :: (if odd then ['\ufffd'] else [])
  | u :: v :: rest =>
    if isHigh u then
      if isLow v then
        Char.ofNat (0x10000 + (u - 0xD800) * 0x400 + (v - 0xDC00)) :: ofUnits odd rest
      else '\ufffd' :: ofUnits odd (v :: rest)
    else (if isLow u then '\ufffd' else Char.ofNat u) :: ofUnits odd (v :: rest)

/-- The text of bytes. For want of a table those of a foreign set are read as UTF-8, which is
right as long as they are those of ASCII. -/
def decode : Charset → List UInt8 → List Char
  | .utf8, bytes | .foreign, bytes => utf8DecodeLossy bytes
  | .utf16 highFirst, bytes =>
    let (us, odd) := units highFirst bytes
    ofUnits odd us
  | .page upper, bytes =>
    let table := upper.toArray
    bytes.map fun b =>
      if b.toNat < 0x80 then Char.ofNat b.toNat else (table[b.toNat - 0x80]?).getD '\ufffd'
  | .unreadable, bytes => if bytes.isEmpty then [] else ['\ufffd']

/-- The text of bytes whose first ones may say which set they are in; those are not
part of the text. -/
def decodeMarked (otherwise : Charset) : List UInt8 → List Char
  | 0xEF :: 0xBB :: 0xBF :: rest => decode .utf8 rest
  | 0xFF :: 0xFE :: rest => decode (.utf16 false) rest
  | 0xFE :: 0xFF :: rest => decode (.utf16 true) rest
  | bytes => decode otherwise bytes

end Charset

end IngestWatch.Text
