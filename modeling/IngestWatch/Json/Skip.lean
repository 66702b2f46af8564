import IngestWatch.Json.Scan

/-!
Passing over a value that nobody asked for. Only the outline of the value is
looked at: numbers may be of any size, escapes may name half a surrogate pair, and
containers may nest as deep as they like.
-/

namespace IngestWatch.Json

/-- Passes an escape after its backslash. -/
def skipEscape : List Char → Reading (List Char)
  | [] => .error (Cause.endInString.before [])
  | 'u' :: rest => do pure (← scanHex4 rest).2
  | c :: rest =>
    if ['"', '\\', '/', 'b', 'f', 'n', 'r', 't'].contains c then .ok rest
    else .error (Cause.badEscape.within (c :: rest))

/-- Passes a string after its opening quote; the length of the text is fuel enough. -/
def skipString : Nat → List Char → Reading (List Char)
  | 0, cs => .error (Cause.endInString.before cs)
  | _ + 1, [] => .error (Cause.endInString.before [])
  | fuel + 1, c :: rest =>
    if c = '"' then .ok rest
    else if c = '\\' then do skipString fuel (← skipEscape rest)
    else if c.toNat < 0x20 then .error (Cause.controlInString.before (c :: rest))
    else skipString fuel rest

/-- Passes an exponent after its `e`. -/
def skipExponent (cs : List Char) : Reading (List Char) :=
  let cs := match cs with
    | '+' :: rest => rest
    | '-' :: rest => rest
    | rest => rest
  match cs with
  | [] => .error (Cause.badNumber.before [])
  | c :: rest =>
    if isDigit c then .ok (rest.dropWhile isDigit)
    else .error (Cause.badNumber.within (c :: rest))

def skipExponent? : List Char → Reading (List Char)
  | 'e' :: rest => skipExponent rest
  | 'E' :: rest => skipExponent rest
  | rest => .ok rest

/-- Passes a fraction after its point. -/
def skipFraction : List Char → Reading (List Char)
  | [] => .error (Cause.badNumber.before [])
  | c :: rest =>
    if isDigit c then skipExponent? (rest.dropWhile isDigit)
    else .error (Cause.badNumber.within (c :: rest))

/-- Passes a number after its sign. -/
def skipNumber : List Char → Reading (List Char)
  | [] => .error (Cause.badNumber.before [])
  | c :: rest =>
    let rest? : Reading (List Char) :=
      if c = '0' then
        match rest with
        | d :: tail =>
          if isDigit d then .error (Cause.badNumber.within (d :: tail)) else .ok (d :: tail)
        | [] => .ok []
      else if isDigit c then .ok (rest.dropWhile isDigit)
      else .error (Cause.badNumber.within (c :: rest))
    rest?.bind fun
      | '.' :: rest => skipFraction rest
      | rest => skipExponent? rest

mutual

/-- Passes one value. -/
def skipValue : Nat → List Char → Reading (List Char)
  | 0, cs => .error (Cause.endInValue.before cs)
  | fuel + 1, cs =>
    match skipBlanks cs with
    | [] => .error (Cause.endInValue.within [])
    | 'n' :: rest => scanWord ['u', 'l', 'l'] rest
    | 't' :: rest => scanWord ['r', 'u', 'e'] rest
    | 'f' :: rest => scanWord ['a', 'l', 's', 'e'] rest
    | '-' :: rest => skipNumber rest
    | '"' :: rest => skipString (rest.length + 1) rest
    | '[' :: rest =>
      match skipBlanks rest with
      | [] => .error (Cause.endInList.within [])
      | ']' :: rest => .ok rest
      | rest => skipItems fuel rest
    | '\x7b' :: rest =>
      match skipBlanks rest with
      | [] => .error (Cause.endInObject.within [])
      | '\x7d' :: rest => .ok rest
      | rest => skipMembers fuel rest
    | c :: rest =>
      if isDigit c then skipNumber (c :: rest)
      else .error (Cause.wantedValue.within (c :: rest))

/-- Passes the items of a list and its closing bracket. -/
def skipItems : Nat → List Char → Reading (List Char)
  | 0, cs => .error (Cause.endInList.before cs)
  | fuel + 1, cs => do
    let rest ← skipValue fuel cs
    match skipBlanks rest with
    | [] => throw (Cause.endInList.within [])
    | ']' :: rest => pure rest
    | ',' :: rest => skipItems fuel rest
    | rest => throw (Cause.wantedListEnd.within rest)

/-- Passes the members of an object and its closing brace. -/
def skipMembers : Nat → List Char → Reading (List Char)
  | 0, cs => .error (Cause.endInObject.before cs)
  | fuel + 1, cs =>
    match skipBlanks cs with
    | [] => .error (Cause.endInObject.within [])
    | '"' :: rest => do
      let rest ← skipString (rest.length + 1) rest
      match skipBlanks rest with
      | [] => throw (Cause.endInObject.within [])
      | ':' :: rest =>
        let rest ← skipValue fuel rest
        match skipBlanks rest with
        | [] => throw (Cause.endInObject.within [])
        | '\x7d' :: rest => pure rest
        | ',' :: rest => skipMembers fuel rest
        | rest => throw (Cause.wantedObjectEnd.within rest)
      | rest => throw (Cause.wantedColon.within rest)
    | rest => .error (Cause.keyNotString.within rest)

end

end IngestWatch.Json
