/-!
What can be wrong with a TOML text. A trouble collects what the reader was in the
middle of and what it would have taken instead; it is firm once the reader has seen
enough to know that no other form of value can be meant.
-/

namespace IngestWatch.Toml

/-- A reason of its own, beside what was expected. -/
inductive Cause where
  /-- A key that is already there; with the table if that is known. -/
  | doubledKey (key : String) (table : Option (List String))
  | notTable (path : List String) (kind : String)
  | outOfRange
  | tooDeep
  | tooLarge
  | tooSmall
deriving DecidableEq, Repr

def Cause.message : Cause → String
  | .doubledKey key none => s!"duplicate key `{key}`"
  | .doubledKey key (some []) => s!"duplicate key `{key}` in document root"
  | .doubledKey key (some path) =>
    let table := String.intercalate "." path
    s!"duplicate key `{key}` in table `{table}`"
  | .notTable path kind =>
    let key := String.intercalate "." path
    s!"dotted key `{key}` attempted to extend non-table type ({kind})"
  | .outOfRange => "value is out of range"
  | .tooDeep => "recursion limit exceeded"
  | .tooLarge => "number too large to fit in target type"
  | .tooSmall => "number too small to fit in target type"

structure Trouble where
  firm : Bool
  label : Option String
  wanted : List String
  cause : Option Cause
deriving DecidableEq, Repr

/-- What reading gives, or the trouble it ran into. -/
abbrev Reading := Except Trouble

namespace Trouble

/-- Nothing is known but that it cannot be read. -/
def plain : Trouble := ⟨false, none, [], none⟩

def ofCause (cause : Cause) : Trouble := ⟨false, none, [], some cause⟩

/-- The innermost label, everything wanted from the inside out, and the cause, each
on a line. -/
def message (t : Trouble) : String :=
  let label := t.label.toList.map fun l => s!"invalid {l}"
  let wanted := if t.wanted.isEmpty then [] else ["expected " ++ String.intercalate ", " t.wanted]
  let cause := t.cause.toList.map Cause.message
  String.intercalate "\n" (label ++ wanted ++ cause)

end Trouble

variable {α : Type}

/-- No other form can be meant from here on. -/
def firmly (reading : Reading α) : Reading α :=
  reading.mapError fun t => { t with firm := true }

/-- Names what is being read; a name given further inside stays. -/
def labelled (name : String) (reading : Reading α) : Reading α :=
  reading.mapError fun t => { t with label := t.label.or (some name) }

/-- Adds to what would have been taken. -/
def wanting (what : String) (reading : Reading α) : Reading α :=
  reading.mapError fun t => { t with wanted := t.wanted ++ [what] }

/-- Tries another form unless the trouble is firm. -/
def orElse (reading : Reading α) (other : Unit → Reading α) : Reading α :=
  match reading with
  | .ok v => .ok v
  | .error t => if t.firm then .error t else other ()

/-- What may be there; if it is not, nothing is taken from the text `cs`. -/
def perhaps (cs : List Char) (reading : Reading (α × List Char)) :
    Reading (Option α × List Char) :=
  match reading with
  | .ok (v, rest) => .ok (some v, rest)
  | .error t => if t.firm then .error t else .ok (none, cs)

/-- One given character. -/
def readChar (c : Char) : List Char → Reading (List Char)
  | [] => .error .plain
  | d :: rest => if d = c then .ok rest else .error .plain

end IngestWatch.Toml
