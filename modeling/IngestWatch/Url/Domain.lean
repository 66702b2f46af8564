import IngestWatch.Text.Blank
import IngestWatch.Text.Direction
import IngestWatch.Text.Joining
import IngestWatch.Text.Marks
import IngestWatch.Text.Normal
import IngestWatch.Url.Domain.Table
import IngestWatch.Url.Punycode

/-!
Domain names of any script in their ASCII form. A name is folded to the characters that
domain names use, composed, and cut at its dots; each part is checked, and one that is
not ASCII is written in Punycode behind `xn--`.
-/

namespace IngestWatch.Url.Domain

open Text

/-! ## Folding -/

/-- Reads code points in hexadecimal; those of a word are joined by dots. `n` is the
number so far, `word` the numbers before it, the last first. -/
def readWords (n : Nat) (word : List Nat) : List Char → List (List Nat)
  | [] => [(n :: word).reverse]
  | c :: rest =>
    if c = '.' then readWords 0 (n :: word) rest
    else if c = ' ' ∨ c = '\n' then (n :: word).reverse :: readWords 0 [] rest
    else
      let d := if c ≤ '9' then c.toNat - 0x30 else c.toNat - 0x37
      readWords (n * 16 + d) word rest

/-- What replaces the characters that are not replaced in runs. -/
def replacements : List (Nat × List Nat) :=
  (readWords 0 [] replaced.toList).filterMap fun
    | c :: others => some (c, others)
    | [] => none

/-- What replaces a character of a run. -/
def shift? (c : Nat) : Option Nat :=
  (shifted.find? fun (low, high, step, _) => low ≤ c && c ≤ high && (c - low) % step == 0).map
    fun (low, _, _, base) => base + (c - low)

/-- What becomes of a character; nothing if it may not occur. -/
def fold? (c : Char) : Option (List Char) :=
  let n := c.toNat
  if n < 0x80 then some [c.toLower]
  else
    match shift? n with
    | some other => some [Char.ofNat other]
    | none =>
      match replacements.lookup n with
      | some others => some (others.map Char.ofNat)
      | none =>
        if Ranges.contains n dropped then some []
        else if Ranges.contains n refused then none
        else some [c]

/-! ## Checking -/

/-- The characters of ASCII that may not occur in a name. -/
def isDenied (c : Char) : Bool :=
  c.toNat ≤ 0x20 || c.toNat = 0x7F
    || ['%', '#', '/', ':', '<', '>', '?', '@', '[', '\\', ']', '^', '|'].contains c

def isAscii (c : Char) : Bool :=
  c.toNat < 0x80

/-- Is the letter before the marks at the front of a reversed text one that joins
the letter after it? -/
def joinsForward (reversed : List Char) : Bool :=
  match reversed.dropWhile fun c => Ranges.contains c.toNat Joining.transparent with
  | c :: _ => Ranges.contains c.toNat Joining.forward
  | [] => false

def joinsBackward (cs : List Char) : Bool :=
  match cs.dropWhile fun c => Ranges.contains c.toNat Joining.transparent with
  | c :: _ => Ranges.contains c.toNat Joining.backward
  | [] => false

/-- Is the last character before this place a sign that drops a vowel? -/
def afterVirama : List Char → Bool
  | c :: _ => Normal.classOf c.toNat = 9
  | [] => false

/-- An invisible joiner may stand only behind a sign that drops a vowel; a non-joiner
also between two letters that would join. `before` is reversed. -/
def joinersFit (before : List Char) : List Char → Bool
  | [] => true
  | c :: rest =>
    let fits :=
      if c.toNat = 0x200D then afterVirama before
      else if c.toNat = 0x200C then
        afterVirama before || (joinsForward before && joinsBackward rest)
      else true
    fits && joinersFit (c :: before) rest

/-- The rules that hold for every part of a name. -/
def partFits (part : List Char) : Bool :=
  !(part.head?.any isMark) && joinersFit [] part && !(part.any isDenied)

/-- Does folding leave the characters as they are? -/
def isFolded (cs : List Char) : Bool :=
  cs.all (fun c => fold? c = some [c]) && Normal.form cs = cs

/-- The longest text that is read as Punycode. -/
def longestCode : Nat := 2000

/-- A part of a folded name as characters. Behind `xn--` stands Punycode for a part that
is not ASCII and is itself folded. -/
def readPart (part : List Char) : Option (List Char) :=
  if part.take 4 = ['x', 'n', '-', '-'] then do
    let code := part.drop 4
    if part.all isAscii ∧ code.getLast?.any (· ≠ '-') ∧ code.length ≤ longestCode then
      let cs ← Punycode.decode? code
      if isFolded cs ∧ !cs.all isAscii ∧ !cs.contains '.' then some cs else none
    else none
  else some part

/-- A part in ASCII. -/
def writePart (part : List Char) : List Char :=
  if part.all isAscii then part else ['x', 'n', '-', '-'] ++ Punycode.encode part

/-- The ASCII form of a name, if it is one. -/
def toAscii (name : List Char) : Option (List Char) := do
  let folded ← name.mapM fold?
  let parts ← (splitAt '.' (Normal.form folded.flatten)).mapM readPart
  let mixed := parts.any Direction.isMixed
  if parts.all partFits ∧ (mixed → parts.all Direction.allows) then
    some (List.intercalate ['.'] (parts.map writePart))
  else none

end IngestWatch.Url.Domain
