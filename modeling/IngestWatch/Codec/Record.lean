import IngestWatch.Codec

/-!
Codecs of records. A record is read by starting from given values and putting the
value of every known field that is present over them, so a partial document is the
start overlaid by what the document says. Fields that nobody knows are passed over.
-/

namespace IngestWatch

open Json

/-- One field of a record: how it is shown, and what its value changes. -/
structure Field (ρ : Type) where
  name : String
  show? : ρ → Option Json
  read : Nat → List Char → Reading ((ρ → ρ) × List Char)
  ofToml : Toml → Except Mismatch (ρ → ρ)

namespace Field

variable {ρ α : Type}

/-- A field that is always shown. -/
def always (name : String) (c : Codec α) (get : ρ → α) (put : α → ρ → ρ) : Field ρ where
  name := name
  show? r := some (c.encode (get r))
  read depth cs := (c.read depth cs).map fun (v, rest) => (put v, rest)
  ofToml v := (c.ofToml v).map put

/-- A field that is shown only where it is set. -/
def whenSet (name : String) (c : Codec α) (get : ρ → Option α) (put : Option α → ρ → ρ) :
    Field ρ where
  name := name
  show? r := (get r).map c.encode
  read depth cs := (c.option.read depth cs).map fun (v, rest) => (put v, rest)
  ofToml v := (c.option.ofToml v).map put

/-- The field with a name. -/
def find? (name : String) (fields : List (Field ρ)) : Option (Field ρ) :=
  fields.find? fun f => f.name = name

end Field

/-- The form of a record: what it is called in complaints, its fields, what it is
before any field is read, and whether every field has to be there. -/
structure Record (ρ : Type) where
  title : String
  fields : List (Field ρ)
  start : ρ
  strict : Bool

namespace Record

variable {ρ : Type}

/-- A record while it is read, with the names of the fields that were there. -/
structure Draft (ρ : Type) where
  value : ρ
  seen : List String

/-- Puts the value of a field into a draft. -/
def Draft.put (d : Draft ρ) (name : String) (change : ρ → ρ) : Draft ρ :=
  ⟨change d.value, name :: d.seen⟩

/-- The finished record, if no field is missing that has to be there. -/
def finish (r : Record ρ) (d : Draft ρ) : Except Mismatch ρ :=
  match r.fields.find? fun f => !d.seen.contains f.name with
  | some f => if r.strict then .error (.missingField f.name) else .ok d.value
  | none => .ok d.value

/-- The finished record of a list of so many items. -/
def finishList (r : Record ρ) (count : Nat) (d : Draft ρ) : Except Mismatch ρ :=
  if r.strict ∧ count < r.fields.length then
    .error (.wrongLength count s!"{r.title} with {r.fields.length} elements")
  else .ok d.value

/-- The record as an object. -/
def encode (r : Record ρ) (v : ρ) : Json :=
  Json.ofMembers (r.fields.filterMap fun f => (f.show? v).map (f.name, ·))

/-! ## Objects -/

/-- A complaint about an object as a whole stands past its closing brace if that
comes next. -/
def pastBrace (cs : List Char) : List Char :=
  match skipBlanks cs with
  | '\x7d' :: rest => rest
  | rest => rest

/-- The value of a member whose key is already read. -/
def readMember (r : Record ρ) (depth : Nat) (d : Draft ρ) (key : String) (cs : List Char) :
    Reading (Draft ρ × List Char) :=
  match Field.find? key r.fields with
  | some f =>
    if d.seen.contains key then .error ((Mismatch.doubledField key).before (pastBrace cs))
    else do
      let (change, rest) ← f.read depth (← Codec.readColon cs)
      pure (d.put key change, rest)
  | none => do
    let rest ← Codec.readColon cs
    pure (d, ← skipValue (stepsFor rest) rest)

/-- The members up to the closing brace; `first` before any was read. -/
def readMembers (r : Record ρ) (depth : Nat) : Nat → Bool → Draft ρ → List Char →
    Reading (ρ × List Char)
  | 0, _, _, cs => .error (Cause.endInObject.before cs)
  | fuel + 1, first, d, cs =>
    let member (rest : List Char) := do
      let (key, rest) ← scanString rest
      let (d, rest) ← r.readMember depth d key rest
      readMembers r depth fuel false d rest
    match skipBlanks cs with
    | [] => .error (Cause.endInObject.within [])
    | '\x7d' :: rest => do
      pure (← (r.finish d).mapError (Mismatch.before · rest), rest)
    | c :: rest =>
      if first then
        if c = '"' then member rest else .error (Cause.keyNotString.within (c :: rest))
      else if c = ',' then
        match skipBlanks rest with
        | [] => .error (Cause.endInValue.within [])
        | '"' :: rest => member rest
        | '\x7d' :: rest => .error (Cause.trailingComma.within ('\x7d' :: rest))
        | rest => .error (Cause.keyNotString.within rest)
      else .error (Cause.wantedObjectEnd.within (c :: rest))

/-! ## Lists -/

/-- A complaint about a list as a whole stands past its closing bracket, or past the
comma after its last item. -/
def pastBracket (cs : List Char) : List Char :=
  match skipBlanks cs with
  | ']' :: rest => rest
  | ',' :: rest => skipBlanks rest
  | rest => rest

/-- The closing bracket after the last field. -/
def readBracket (cs : List Char) : Reading (List Char) :=
  match skipBlanks cs with
  | [] => .error (Cause.endInList.within [])
  | ']' :: rest => .ok rest
  | ',' :: rest =>
    match skipBlanks rest with
    | ']' :: rest => .error (Cause.trailingComma.within (']' :: rest))
    | rest => .error (Cause.trailingCharacters.within rest)
  | rest => .error (Cause.trailingCharacters.within rest)

/-- The end of a list of so many items. -/
def readListEnd (r : Record ρ) (count : Nat) (d : Draft ρ) (cs : List Char) :
    Reading (ρ × List Char) :=
  match r.finishList count d with
  | .error mismatch => .error (mismatch.before (pastBracket cs))
  | .ok v => (readBracket cs).map fun rest => (v, rest)

/-- The items of a list, which are the values of the fields in their order. -/
def readItems (r : Record ρ) (depth : Nat) : List (Field ρ) → Nat → Draft ρ → List Char →
    Reading (ρ × List Char)
  | [], count, d, cs => r.readListEnd count d cs
  | f :: fields, count, d, cs =>
    let item (cs : List Char) := do
      let (change, rest) ← f.read depth cs
      readItems r depth fields (count + 1) (d.put f.name change) rest
    match skipBlanks cs with
    | [] => .error (Cause.endInList.within [])
    | ']' :: rest => r.readListEnd count d (']' :: rest)
    | c :: rest =>
      if count = 0 then item (c :: rest)
      else if c = ',' then
        match skipBlanks rest with
        | [] => .error (Cause.endInValue.within [])
        | ']' :: rest => .error (Cause.trailingComma.within (']' :: rest))
        | rest => item rest
      else .error (Cause.wantedListEnd.within (c :: rest))

/-! ## The codec -/

def read (r : Record ρ) (depth : Nat) (cs : List Char) : Reading (ρ × List Char) :=
  match skipBlanks cs with
  | [] => .error (Cause.endInValue.within [])
  | c :: rest =>
    if c = '[' then
      if depth = 0 then .error (Cause.tooDeep.within (c :: rest))
      else r.readItems (depth - 1) r.fields 0 ⟨r.start, []⟩ rest
    else if c = '\x7b' then
      if depth = 0 then .error (Cause.tooDeep.within (c :: rest))
      else r.readMembers (depth - 1) (stepsFor rest) true ⟨r.start, []⟩ rest
    else .error (unfitAt r.title (c :: rest))

/-- Takes the members of a table one by one. -/
def takeMembers (r : Record ρ) : Draft ρ → List (String × Toml) → Except Mismatch (Draft ρ)
  | d, [] => .ok d
  | d, (key, v) :: rest =>
    match Field.find? key r.fields with
    | some f =>
      if d.seen.contains key then .error (.doubledField key)
      else do takeMembers r (d.put key (← f.ofToml v)) rest
    | none => takeMembers r d rest

/-- Takes the items of a list for the fields in their order. -/
def takeItems (r : Record ρ) : List (Field ρ) → Nat → Draft ρ → List Toml → Except Mismatch ρ
  | f :: fields, count, d, item :: items => do
    takeItems r fields (count + 1) (d.put f.name (← f.ofToml item)) items
  | _, count, d, _ => r.finishList count d

def ofToml (r : Record ρ) (v : Toml) : Except Mismatch ρ :=
  match v with
  | .list _ items => r.takeItems r.fields 0 ⟨r.start, []⟩ items
  | v =>
    match v.members? with
    | some members => do r.finish (← r.takeMembers ⟨r.start, []⟩ members)
    | none => unfitToml r.title v

def codec (r : Record ρ) : Codec ρ where
  encode := r.encode
  read := r.read
  ofToml := r.ofToml

end Record

end IngestWatch
