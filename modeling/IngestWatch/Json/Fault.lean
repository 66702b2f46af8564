import IngestWatch.Mismatch

/-!
What can be wrong with a JSON text, and where. A place is kept as the number of
bytes that follow it, which a reader knows without counting from the start; line
and column are worked out once, when the message is written.
-/

namespace IngestWatch.Json

/-- Why a text could not be read. The last case carries a complaint about a value
that is well formed but not of the wanted type. -/
inductive Cause where
  | endInValue
  | endInList
  | endInObject
  | endInString
  | wantedColon
  | wantedListEnd
  | wantedObjectEnd
  | wantedWord
  | wantedValue
  | controlInString
  | keyNotString
  | badEscape
  | badNumber
  | numberOutOfRange
  | loneSurrogate
  | unfinishedSurrogate
  | trailingComma
  | trailingCharacters
  | tooDeep
  | unfit (mismatch : Mismatch)
deriving DecidableEq, Repr

def Cause.message : Cause → String
  | .endInValue => "EOF while parsing a value"
  | .endInList => "EOF while parsing a list"
  | .endInObject => "EOF while parsing an object"
  | .endInString => "EOF while parsing a string"
  | .wantedColon => "expected `:`"
  | .wantedListEnd => "expected `,` or `]`"
  | .wantedObjectEnd => "expected `,` or `\x7d`"
  | .wantedWord => "expected ident"
  | .wantedValue => "expected value"
  | .controlInString => "control character (\\u0000-\\u001F) found while parsing a string"
  | .keyNotString => "key must be a string"
  | .badEscape => "invalid escape"
  | .badNumber => "invalid number"
  | .numberOutOfRange => "number out of range"
  | .loneSurrogate => "lone leading surrogate in hex escape"
  | .unfinishedSurrogate => "unexpected end of hex escape"
  | .trailingComma => "trailing comma"
  | .trailingCharacters => "trailing characters"
  | .tooDeep => "recursion limit exceeded"
  | .unfit mismatch => mismatch.message

/-- A cause and the number of bytes after its place. -/
structure Fault where
  cause : Cause
  left : Nat
deriving DecidableEq, Repr

/-- The length of the UTF-8 form. -/
def byteLength (cs : List Char) : Nat :=
  cs.foldl (fun n c => n + c.utf8Size) 0

/-- A fault right before what remains. -/
def Cause.before (cause : Cause) (rest : List Char) : Fault :=
  ⟨cause, byteLength rest⟩

/-- A fault just past the first byte of what remains, or at the end of the text. -/
def Cause.within (cause : Cause) (rest : List Char) : Fault :=
  ⟨cause, byteLength rest - 1⟩

/-- The line, counted from one, and the number of bytes since its start, at a
place `bytes` bytes into the text. -/
def lineColumn : List Char → Nat → Nat × Nat
  | cs, bytes => go 1 0 bytes cs
where
  go (line column : Nat) : Nat → List Char → Nat × Nat
    | _, [] => (line, column)
    | bytes, c :: rest =>
      if bytes = 0 then (line, column)
      else if bytes < c.utf8Size then (line, column + bytes)
      else if c = '\n' then go (line + 1) 0 (bytes - 1) rest
      else go line (column + c.utf8Size) (bytes - c.utf8Size) rest

/-- The message with the place in a given text. -/
def Fault.message (text : String) (fault : Fault) : String :=
  let cs := text.toList
  let place := lineColumn cs (byteLength cs - fault.left)
  s!"{fault.cause.message} at line {place.1} column {place.2}"

/-- What reading gives, or the fault it ran into. -/
abbrev Reading := Except Fault

end IngestWatch.Json
