import IngestWatch.Toml.Trouble

/-!
Blanks, line ends and comments of TOML.
-/

namespace IngestWatch.Toml

def isBlank (c : Char) : Bool :=
  c = ' ' || c = '\t'

def skipBlanks (cs : List Char) : List Char :=
  cs.dropWhile isBlank

/-- May the character stand in a comment? Controls may not, apart from the tab. -/
def inComment (c : Char) : Bool :=
  c = '\t' || (0x20 ≤ c.toNat && c.toNat ≠ 0x7F)

/-- The text after a line end, if there is one at its front. -/
def afterNewline? : List Char → Option (List Char)
  | '\n' :: rest => some rest
  | '\r' :: '\n' :: rest => some rest
  | _ => none

/-- The text after a comment, if there is one at its front. -/
def afterComment? : List Char → Option (List Char)
  | '#' :: rest => some (rest.dropWhile inComment)
  | _ => none

/-- The text after a line end or at its end. -/
def lineEnd (cs : List Char) : Reading (List Char) :=
  if cs.isEmpty then .ok []
  else
    match afterNewline? cs with
    | some rest => .ok rest
    | none => .error .plain

/-- What may follow on a line: blanks, a comment, the line's end. -/
def lineRest (cs : List Char) : Reading (List Char) :=
  let cs := skipBlanks cs
  wanting "`#`" (wanting "newline" (lineEnd ((afterComment? cs).getD cs)))

/-- Drops blanks and line ends. -/
def skipBlankLines : List Char → List Char
  | [] => []
  | '\r' :: '\n' :: rest => skipBlankLines rest
  | c :: rest => if isBlank c || c = '\n' then skipBlankLines rest else c :: rest

/-- Drops blanks, line ends and comments; the text's length is fuel enough. -/
def skipRemarks : Nat → List Char → List Char
  | 0, cs => cs
  | fuel + 1, cs =>
    match afterComment? (skipBlankLines cs) with
    | some rest => skipRemarks fuel rest
    | none => skipBlankLines cs

end IngestWatch.Toml
