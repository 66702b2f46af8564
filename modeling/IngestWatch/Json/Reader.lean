import IngestWatch.Json.Scan

/-!
Reading a JSON text. `parse` takes a limit on nesting; the service's answers are
read with the limit `usualDepth`.
-/

namespace IngestWatch.Json

mutual

/-- One value. `fuel` bounds the number of steps, `depth` the nesting that is still
allowed; `stepsFor` is always fuel enough. -/
def readValue : Nat → Nat → List Char → Reading (Json × List Char)
  | 0, _, cs => .error (Cause.endInValue.before cs)
  | fuel + 1, depth, cs =>
    match skipBlanks cs with
    | [] => .error (Cause.endInValue.within [])
    | 'n' :: rest => do pure (.null, ← scanWord ['u', 'l', 'l'] rest)
    | 't' :: rest => do pure (.bool true, ← scanWord ['r', 'u', 'e'] rest)
    | 'f' :: rest => do pure (.bool false, ← scanWord ['a', 'l', 's', 'e'] rest)
    | '-' :: rest => scanNumber true rest
    | '"' :: rest => do
      let (s, rest) ← scanString rest
      pure (.str s, rest)
    | '[' :: rest =>
      if depth = 0 then .error (Cause.tooDeep.within ('[' :: rest))
      else
        match skipBlanks rest with
        | [] => .error (Cause.endInList.within [])
        | ']' :: rest => .ok (.arr [], rest)
        | rest => do
          let (items, rest) ← readItems fuel (depth - 1) rest
          pure (.arr items, rest)
    | '\x7b' :: rest =>
      if depth = 0 then .error (Cause.tooDeep.within ('\x7b' :: rest))
      else
        match skipBlanks rest with
        | [] => .error (Cause.endInObject.within [])
        | '\x7d' :: rest => .ok (.obj [], rest)
        | rest => do
          let (members, rest) ← readMembers fuel (depth - 1) rest
          pure (Json.ofMembers members, rest)
    | c :: rest =>
      if isDigit c then scanNumber false (c :: rest)
      else .error (Cause.wantedValue.within (c :: rest))

/-- The items of an array up to its closing bracket, at least one. -/
def readItems : Nat → Nat → List Char → Reading (List Json × List Char)
  | 0, _, cs => .error (Cause.endInList.before cs)
  | fuel + 1, depth, cs => do
    let (item, rest) ← readValue fuel depth cs
    match skipBlanks rest with
    | [] => throw (Cause.endInList.within [])
    | ']' :: rest => pure ([item], rest)
    | ',' :: rest =>
      match skipBlanks rest with
      | [] => throw (Cause.endInValue.within [])
      | ']' :: rest => throw (Cause.trailingComma.within (']' :: rest))
      | rest =>
        let (items, rest) ← readItems fuel depth rest
        pure (item :: items, rest)
    | rest => throw (Cause.wantedListEnd.within rest)

/-- The members of an object in the order of the text up to its closing brace, at
least one. -/
def readMembers : Nat → Nat → List Char → Reading (List (String × Json) × List Char)
  | 0, _, cs => .error (Cause.endInObject.before cs)
  | fuel + 1, depth, cs =>
    match cs with
    | '"' :: rest => do
      let (key, rest) ← scanString rest
      match skipBlanks rest with
      | [] => throw (Cause.endInObject.within [])
      | ':' :: rest =>
        let (value, rest) ← readValue fuel depth rest
        match skipBlanks rest with
        | [] => throw (Cause.endInObject.within [])
        | '\x7d' :: rest => pure ([(key, value)], rest)
        | ',' :: rest =>
          match skipBlanks rest with
          | [] => throw (Cause.endInValue.within [])
          | '\x7d' :: rest => throw (Cause.trailingComma.within ('\x7d' :: rest))
          | rest =>
            let (members, rest) ← readMembers fuel depth rest
            pure ((key, value) :: members, rest)
        | rest => throw (Cause.wantedObjectEnd.within rest)
      | rest => throw (Cause.wantedColon.within rest)
    | rest => .error (Cause.keyNotString.within rest)

end

/-- Nothing but blanks may follow the value of a text. -/
def finish {α : Type} (reading : Reading (α × List Char)) : Reading α := do
  let (value, rest) ← reading
  match skipBlanks rest with
  | [] => pure value
  | rest => throw (Cause.trailingCharacters.within rest)

/-- The whole text as one value, with containers nested at most `depth` deep. -/
def parseChars (depth : Nat) (cs : List Char) : Reading Json :=
  finish (readValue (stepsFor cs) depth cs)

/-- How deep the containers of an answer may nest. -/
def usualDepth : Nat := 127

/-- The whole text as one value, or the message that says what is wrong with it. -/
def parse (depth : Nat) (text : String) : Except String Json :=
  (parseChars depth text.toList).mapError (Fault.message text)

end IngestWatch.Json
