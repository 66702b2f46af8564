import IngestWatch.Text.Blank

/-!
Media types: a type and a subtype, and parameters behind semicolons.
-/

namespace IngestWatch.Http

/-- A media type; names of parameters are in small letters. -/
structure MediaType where
  essence : String
  parameters : List (String × String)
deriving DecidableEq, Repr

namespace MediaType

def isTokenChar (c : Char) : Bool :=
  c.isAlphanum || "!#$%&'*+-.^_`|~".toList.contains c

/-- The characters between quotes. -/
def isQuotedChar (c : Char) : Bool :=
  0x20 ≤ c.toNat && c.toNat < 0x7F

/-- A value between quotes as it stands there and what follows the closing one. The
first character does not close it. -/
def cutQuoted (first : Bool) : List Char → Option (List Char × List Char)
  | [] => none
  | '\\' :: c :: rest =>
    if isQuotedChar c then
      (cutQuoted false rest).map fun (v, rest) => ('\\' :: c :: v, rest)
    else none
  | c :: rest =>
    if c = '"' ∧ ¬first then some ([], rest)
    else if isQuotedChar c then (cutQuoted false rest).map fun (v, rest) => (c :: v, rest)
    else none

/-- A value and what follows the semicolon behind it. -/
def cutValue (cs : List Char) : Option (List Char × List Char) :=
  match cs with
  | '"' :: quoted => do
    let (value, rest) ← cutQuoted true quoted
    match rest.dropWhile (· = ' ') with
    | [] => some (value, [])
    | ';' :: rest => some (value, rest)
    | _ => none
  | cs =>
    let value := cs.takeWhile isTokenChar
    match cs.drop value.length with
    | [] => some (value, [])
    | ';' :: rest => if value.isEmpty then none else some (value, rest)
    | _ => none

/-- Parameters; each takes at least a character, so `fuel` past their length is enough. -/
def readParameters : Nat → List Char → Option (List (String × String))
  | 0, _ => none
  | fuel + 1, cs =>
    match cs.dropWhile (· = ' ') with
    | [] => some []
    | cs => do
      let name := cs.takeWhile isTokenChar
      let '=' :: rest := cs.drop name.length | none
      if name.isEmpty then none
      else
        let (value, rest) ← cutValue rest
        let others ← readParameters fuel rest
        some ((String.ofList (name.map Char.toLower), String.ofList value) :: others)

/-- The media type that a text is. -/
def parse? (s : String) : Option MediaType := do
  let cs := s.toList
  let type := cs.takeWhile isTokenChar
  let '/' :: rest := cs.drop type.length | none
  let subtype := rest.takeWhile isTokenChar
  if type.isEmpty then none
  else
    let essence := String.ofList ((type ++ '/' :: subtype).map Char.toLower)
    match rest.drop subtype.length with
    | [] => some ⟨essence, []⟩
    | ';' :: rest =>
      if subtype.isEmpty then none
      else (readParameters (rest.length + 1) rest).map (⟨essence, ·⟩)
    | _ => none

def parameter? (m : MediaType) (name : String) : Option String :=
  m.parameters.lookup name

end MediaType

end IngestWatch.Http
