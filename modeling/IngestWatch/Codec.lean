import IngestWatch.Json.Reader
import IngestWatch.Json.Skip
import IngestWatch.Json.Writer
import IngestWatch.Decimal.Positional
import IngestWatch.Toml.Document

/-!
Codecs: how a value of a type is written as JSON, read from a JSON text and taken
from a TOML value. Reading goes along the text, so a complaint about a value is
placed where the value stands and the first fault of a text is the one reported.
-/

namespace IngestWatch

open Json

/-- One type's form in JSON and TOML. `read` is given the nesting that is still
allowed. -/
structure Codec (α : Type) where
  encode : α → Json
  read : Nat → List Char → Reading (α × List Char)
  ofToml : Toml → Except Mismatch α

/-! ## Complaints -/

/-- A complaint right before what remains. -/
def Mismatch.before (mismatch : Mismatch) (rest : List Char) : Fault :=
  (Cause.unfit mismatch).before rest

/-- What a number read from JSON turned out to be. -/
def Found.ofNumber : Json → Found
  | .int n => .int n
  | .real x => .real (String.ofList (realChars x))
  | _ => .null

/-- The complaint about a value of another type at the front of a text: after it if
it is a single token, before its bracket otherwise. A token that is broken itself is
complained about as such. -/
def unfitAt (wanted : String) (cs : List Char) : Fault :=
  let complain (found : Found) (rest : List Char) := (Mismatch.wrongType found wanted).before rest
  let ofWord (found : Found) (reading : Reading (List Char)) := match reading with
    | .ok rest => complain found rest
    | .error fault => fault
  let ofNumber (reading : Reading (Json × List Char)) := match reading with
    | .ok (n, rest) => complain (.ofNumber n) rest
    | .error fault => fault
  match cs with
  | 'n' :: rest => ofWord .null (scanWord ['u', 'l', 'l'] rest)
  | 't' :: rest => ofWord (.bool true) (scanWord ['r', 'u', 'e'] rest)
  | 'f' :: rest => ofWord (.bool false) (scanWord ['a', 'l', 's', 'e'] rest)
  | '-' :: rest => ofNumber (scanNumber true rest)
  | '"' :: rest =>
    match scanString rest with
    | .ok (s, rest) => complain (.str s) rest
    | .error fault => fault
  | '[' :: _ => complain .list cs
  | '\x7b' :: _ => complain .table cs
  | c :: rest =>
    if isDigit c then ofNumber (scanNumber false (c :: rest)) else Cause.wantedValue.within cs
  | [] => Cause.wantedValue.within []

/-- What a TOML value turned out to be. -/
def Found.ofToml : Toml → Found
  | .bool value => .bool value
  | .int value => .int value
  | .real value => .real value.positional
  | .str value => .str value
  | .moment _ => .table
  | .list _ _ => .list
  | .table _ => .table

/-- The complaint about a TOML value of another type. -/
def unfitToml {α : Type} (wanted : String) (v : Toml) : Except Mismatch α :=
  .error (.wrongType (.ofToml v) wanted)

namespace Codec

variable {α : Type}

/-! ## Single values -/

/-- Any JSON value. -/
def json : Codec Json where
  encode v := v
  read depth cs := readValue (stepsFor cs) depth cs
  ofToml v := .ok v.toJson

/-- The value of a number within bounds, right before what remains. -/
def whole? (low high : Int) (wanted : String) (found : Found) : Except Mismatch Int :=
  match found with
  | .int n => if low ≤ n ∧ n ≤ high then .ok n else .error (.wrongValue found wanted)
  | _ => .error (.wrongType found wanted)

/-- Whole numbers between two bounds. -/
def whole (low high : Int) (wanted : String) : Codec Int where
  encode n := .int n
  read _ cs :=
    let check (reading : Reading (Json × List Char)) := do
      let (n, rest) ← reading
      let n ← (whole? low high wanted (.ofNumber n)).mapError (Mismatch.before · rest)
      pure (n, rest)
    match skipBlanks cs with
    | [] => .error (Cause.endInValue.within [])
    | '-' :: rest => check (scanNumber true rest)
    | c :: rest =>
      if isDigit c then check (scanNumber false (c :: rest)) else .error (unfitAt wanted (c :: rest))
  ofToml v := whole? low high wanted (.ofToml v)

/-- The same form for another type. -/
def map {β : Type} (c : Codec α) (forth : α → β) (back : β → α) : Codec β where
  encode v := c.encode (back v)
  read depth cs := (c.read depth cs).map fun (v, rest) => (forth v, rest)
  ofToml v := (c.ofToml v).map forth

def int64 : Codec Int := whole (-0x8000000000000000) 0x7fffffffffffffff "i64"

def uint64 : Codec UInt64 :=
  (whole 0 0xffffffffffffffff "u64").map (fun n => UInt64.ofNat n.toNat) (fun n => n.toNat)

def uint32 : Codec UInt32 :=
  (whole 0 0xffffffff "u32").map (fun n => UInt32.ofNat n.toNat) (fun n => n.toNat)

def text : Codec String where
  encode s := .str s
  read _ cs :=
    match skipBlanks cs with
    | [] => .error (Cause.endInValue.within [])
    | '"' :: rest => scanString rest
    | cs => .error (unfitAt "a string" cs)
  ofToml
    | .str s => .ok s
    | v => unfitToml "a string" v

/-- A value that may be absent; only JSON has a way to write that. -/
def option (c : Codec α) : Codec (Option α) where
  encode
    | some v => c.encode v
    | none => .null
  read depth cs :=
    match skipBlanks cs with
    | 'n' :: rest => (scanWord ['u', 'l', 'l'] rest).map fun rest => (none, rest)
    | cs => (c.read depth cs).map fun (v, rest) => (some v, rest)
  ofToml v := (c.ofToml v).map some

/-! ## One of several names -/

/-- The value with a name. -/
def choice? (choices : List (String × α)) (name : String) : Except Mismatch α :=
  match choices.lookup name with
  | some v => .ok v
  | none => .error (.unknownChoice name (choices.map Prod.fst))

/-- The name of a choice as the key of an object. -/
def readChoiceName (choices : List (String × α)) (cs : List Char) : Reading (α × List Char) :=
  match skipBlanks cs with
  | [] => .error (Cause.endInValue.within [])
  | '"' :: rest => do
    let (name, rest) ← scanString rest
    let v ← (choice? choices name).mapError (Mismatch.before · rest)
    pure (v, rest)
  | cs => .error (unfitAt "variant identifier" cs)

/-- The colon between a key and its value. -/
def readColon (cs : List Char) : Reading (List Char) :=
  match skipBlanks cs with
  | [] => .error (Cause.endInObject.within [])
  | ':' :: rest => .ok rest
  | rest => .error (Cause.wantedColon.within rest)

/-- The value of a choice written as an object, which must be null. -/
def readNothing (cs : List Char) : Reading (List Char) :=
  match skipBlanks cs with
  | [] => .error (Cause.endInValue.within [])
  | 'n' :: rest => scanWord ['u', 'l', 'l'] rest
  | cs => .error (unfitAt "unit" cs)

/-- A choice by its name, or by an object whose only key is its name. -/
def readChoice (choices : List (String × α)) (depth : Nat) (cs : List Char) :
    Reading (α × List Char) :=
  match skipBlanks cs with
  | [] => .error (Cause.endInValue.within [])
  | '"' :: rest => readChoiceName choices ('"' :: rest)
  | '\x7b' :: rest =>
    if depth = 0 then .error (Cause.tooDeep.within ('\x7b' :: rest))
    else do
      let (v, rest) ← readChoiceName choices rest
      let rest ← readNothing (← readColon rest)
      match skipBlanks rest with
      | [] => throw (Cause.endInObject.before [])
      | '\x7d' :: rest => pure (v, rest)
      | rest => throw (Cause.wantedValue.before rest)
  | rest => .error (Cause.wantedValue.within rest)

/-- A choice by its name, or by a table that holds an empty table or list under its name.
A list in brackets that is not empty is told to be an empty table. -/
def choiceOfToml (choices : List (String × α)) : Toml → Except Mismatch α
  | .str name => choice? choices name
  | .table [] => .error .choiceOfNone
  | .table [(name, v)] => do
    let chosen ← choice? choices name
    match v with
    | .table [] | .list _ [] => pure chosen
    | .list true _ => throw (.choiceNotEmpty "array")
    | .table _ | .list false _ => throw (.choiceNotEmpty "table")
    | v => throw (.choiceNotTable v.kind)
  | .table _ => .error .choiceOfSeveral
  | _ => .error .wantedChoice

/-- One of several values by its name. -/
def choice (choices : List (String × α)) (nameOf : α → String) : Codec α where
  encode v := .str (nameOf v)
  read := readChoice choices
  ofToml := choiceOfToml choices

/-! ## Texts under keys -/

/-- The members of an object up to its closing brace; `first` before any was read. -/
def readTexts : Nat → Bool → List (String × String) → List Char →
    Reading (List (String × String) × List Char)
  | 0, _, _, cs => .error (Cause.endInObject.before cs)
  | fuel + 1, first, texts, cs =>
    let member (rest : List Char) := do
      let (key, rest) ← scanString rest
      let (value, rest) ← text.read 0 (← readColon rest)
      readTexts fuel false (Keyed.insert key value texts) rest
    match skipBlanks cs with
    | [] => .error (Cause.endInObject.within [])
    | '\x7d' :: rest => .ok (texts, rest)
    | c :: rest =>
      if first then
        if c = '"' then member rest else .error (Cause.keyNotString.within (c :: rest))
      else if c = ',' then
        match skipBlanks rest with
        | [] => .error (Cause.endInValue.within [])
        | '"' :: rest => member rest
        | '\x7d' :: rest => .error (Cause.trailingComma.within ('\x7d' :: rest))
        | rest => .error (Cause.keyNotString.within rest)
      else .error (Cause.wantedObjectEnd.within (c :: rest))

/-- The members of a table, all of which must be texts. -/
def textsOfToml (members : List (String × Toml)) : Except Mismatch (List (String × String)) :=
  members.foldlM (fun texts (key, v) => do pure (Keyed.insert key (← text.ofToml v) texts)) []

/-- Texts under keys, in ascending order of the keys. -/
def texts : Codec (List (String × String)) where
  encode members := .obj (members.map fun (key, value) => (key, .str value))
  read depth cs :=
    match skipBlanks cs with
    | [] => .error (Cause.endInValue.within [])
    | '\x7b' :: rest =>
      if depth = 0 then .error (Cause.tooDeep.within ('\x7b' :: rest))
      else readTexts (stepsFor rest) true [] rest
    | cs => .error (unfitAt "a map" cs)
  ofToml v :=
    match v.members? with
    | some members => textsOfToml members
    | none => unfitToml "a map" v

/-! ## Whole texts -/

/-- The value of a whole JSON text, or the message that says what is wrong with it. -/
def parse (c : Codec α) (text : String) : Except String α :=
  (finish (c.read usualDepth text.toList)).mapError (Fault.message text)

/-- The value of a whole TOML document, or the message that says what is wrong with it. -/
def parseToml (c : Codec α) (text : String) : Except String α := do
  (c.ofToml (← Toml.parse text)).mapError Mismatch.message

end Codec

end IngestWatch
