import IngestWatch.Toml.Moment
import IngestWatch.Toml.Tree

/-!
Reading a TOML document: values, lines with a key and a value, and headers. A header
closes the table before it and opens its own.
-/

namespace IngestWatch.Toml

/-! ## Values -/

/-- What is expected where no value begins. -/
def noString {α : Type} (reading : Reading α) : Reading α :=
  wanting "`'`" (wanting "`\"`" (labelled "string" reading))

/-- A word given letter by letter. -/
def readWord : List Char → List Char → Reading (List Char)
  | [], cs => .ok cs
  | c :: word, cs => do readWord word (← readChar c cs)

/-- A value that begins with a sign or a digit. -/
def readNumeric (cs : List Char) : Reading (Toml × List Char) :=
  orElse ((readMoment cs).map fun (m, rest) => (.moment m, rest)) fun _ =>
    orElse ((readReal cs).map fun (x, rest) => (.real x, rest)) fun _ =>
      (readInt cs).map fun (n, rest) => (.int n, rest)

/-- A value that is not made of others. -/
def readScalar : List Char → Reading (Toml × List Char)
  | [] => .error .plain
  | c :: rest =>
    let cs := c :: rest
    if c = '"' ∨ c = '\'' then (readString cs).map fun (s, rest) => (.str (String.ofList s), rest)
    else if c = '+' ∨ c = '-' ∨ isDigit c then readNumeric cs
    else if c = '_' then wanting "leading digit" ((readInt cs).map fun (n, rest) => (.int n, rest))
    else if c = '.' then wanting "leading digit" ((readReal cs).map fun (x, rest) => (.real x, rest))
    else if c = 't' then noString (firmly ((readWord "true".toList cs).map (.bool true, ·)))
    else if c = 'f' then noString (firmly ((readWord "false".toList cs).map (.bool false, ·)))
    else if c = 'i' then noString ((readWord "inf".toList cs).map (.real (.infinity false), ·))
    else if c = 'n' then noString ((readWord "nan".toList cs).map (.real .notANumber, ·))
    else noString (.error .plain)

/-- Between a key and its value. -/
def readEquals (cs : List Char) : Reading (List Char) :=
  wanting "`=`" (wanting "`.`" (readChar '=' cs))

/-- The path of tables down to a value, its key, and the value. -/
abbrev Pair := (List String × String) × Toml

/-- The table that pairs make. -/
def inlineTable (pairs : List Pair) : Except Cause Table :=
  pairs.foldlM (fun t ((path, key), v) => addInline path key v t) Table.empty

mutual

/-- One value. `depth` counts the arrays and inline tables around it. -/
def readValue : Nat → Nat → List Char → Reading (Toml × List Char)
  | 0, _, _ => .error .plain
  | fuel + 1, depth, cs =>
    match cs with
    | '[' :: rest =>
      if depthLimit ≤ depth + 1 then firmly (.error (.ofCause .tooDeep))
      else firmly do
        let (items, rest) ← readItems fuel (depth + 1) rest
        let rest ← wanting "`]`" (labelled "array" (readChar ']' rest))
        pure (.list false items, rest)
    | '\x7b' :: rest =>
      if depthLimit ≤ depth + 1 then firmly (.error (.ofCause .tooDeep))
      else firmly do
        let (pairs, rest) ← readPairs fuel (depth + 1) rest
        let t ← (inlineTable pairs).mapError Trouble.ofCause
        let rest ← wanting "`\x7d`" (labelled "inline table" (readChar '\x7d' rest))
        pure (t.toToml, rest)
    | cs => readScalar cs

/-- The items of an array as far as they go, with the remarks after them; the last may
be followed by a comma. -/
def readItems : Nat → Nat → List Char → Reading (List Toml × List Char)
  | 0, _, cs => .ok ([], cs)
  | fuel + 1, depth, cs => do
    let inner := skipRemarks cs.length cs
    let (item, rest) ← perhaps inner (readValue fuel depth inner)
    match item with
    | none => pure ([], rest)
    | some item =>
      match skipRemarks rest.length rest with
      | ',' :: rest =>
        let (items, rest) ← readItems fuel depth rest
        pure (item :: items, rest)
      | rest => pure ([item], rest)

/-- A key and its value in an inline table. -/
def readPair : Nat → Nat → List Char → Reading (Pair × List Char)
  | 0, _, _ => .error .plain
  | fuel + 1, depth, cs => do
    let (key, rest) ← readKey cs
    firmly do
      let rest ← readEquals rest
      let (v, rest) ← readValue fuel depth (skipBlanks rest)
      pure ((key, v), skipBlanks rest)

/-- The pairs of an inline table as far as they go. A comma must be followed by another
pair, so it is left where none follows. -/
def readPairs : Nat → Nat → List Char → Reading (List Pair × List Char)
  | 0, _, cs => .ok ([], cs)
  | fuel + 1, depth, cs => do
    let (pair, rest) ← perhaps cs (readPair fuel depth cs)
    match pair with
    | none => pure ([], skipBlanks rest)
    | some pair =>
      match rest with
      | ',' :: tail =>
        let (pairs, after) ← readPairs fuel depth tail
        if pairs.isEmpty then pure ([pair], rest) else pure (pair :: pairs, after)
      | rest => pure ([pair], rest)

end

/-- The number of steps that is enough to read a value at the front of a text: no
character takes more than four of them. -/
def stepsFor (cs : List Char) : Nat :=
  4 * cs.length + 4

/-! ## Lines -/

/-- A document as far as it is read: the tables that are closed, and the open one with
its path. `listed` if the open table is an item of a list of tables. -/
structure Draft where
  root : Table
  current : Table
  path : List String
  listed : Bool

namespace Draft

def start : Draft := ⟨.empty, .empty, [], false⟩

/-- The complaint that the last key of a path is already there. -/
def doubled (path : List String) (key : String) : Cause :=
  .doubledKey (keyText key) (some path)

/-- Closes the open table by putting it where its header says. -/
def close (d : Draft) : Except Cause Table :=
  match d.path.getLast? with
  | none => .ok d.current
  | some key =>
    let path := d.path.dropLast
    changeAt false path d.root fun parent =>
      match parent.find? key, d.listed with
      | none, false => .ok (parent.set key (.table d.current))
      | none, true => .ok (parent.set key (.tables [d.current]))
      | some (.tables layers), true => .ok (parent.set key (.tables (layers ++ [d.current])))
      | some (.table layer), false =>
        if layer.implicit then .ok (parent.set key (.table d.current))
        else .error (doubled path key)
      | _, _ => .error (doubled path key)

/-- Opens a table by its header. One that was only mentioned so far keeps its members;
one that has a header or was made by dotted keys cannot be opened again. -/
def openTable (root : Table) (path : List String) (key : String) : Except Cause Draft := do
  let (current, root) ← visit false [] path root fun parent =>
    match parent.find? key with
    | none => .ok (Table.empty, parent)
    | some (.table layer) =>
      if layer.implicit ∧ ¬ layer.dotted then
        .ok (⟨false, false, layer.members⟩, parent.erase key)
      else .error (doubled path key)
    | some _ => .error (doubled path key)
  pure ⟨root, current, path ++ [key], false⟩

/-- Opens a new item of a list of tables by its header. -/
def openItem (root : Table) (path : List String) (key : String) : Except Cause Draft := do
  let root ← changeAt false path root fun parent =>
    match parent.find? key with
    | none => .ok (parent.set key (.tables []))
    | some (.tables _) => .ok parent
    | some _ => .error (doubled path key)
  pure ⟨root, .empty, path ++ [key], true⟩

/-- Adds a pair to the open table. -/
def add (d : Draft) (pair : Pair) : Except Cause Draft := do
  let ((path, key), v) := pair
  pure { d with current := ← addMember (some d.path) path key v d.current }

end Draft

/-- A line with a key and a value. -/
def readLine (d : Draft) (cs : List Char) : Reading (Draft × List Char) := do
  let (key, rest) ← readKey cs
  let rest ← readEquals rest
  let (v, rest) ← readValue (stepsFor rest) 0 (skipBlanks rest)
  let rest ← lineRest rest
  pure (← (d.add (key, v)).mapError Trouble.ofCause, rest)

/-- The rest of a header after its opening bracket or brackets. -/
def readHeader (ending : List Char) (cs : List Char) :
    Reading ((List String × String) × List Char) := do
  let (key, rest) ← readKey cs
  let rest ← wanting s!"`{String.ofList ending}`" (wanting "`.`" (readWord ending rest))
  pure (key, ← lineRest rest)

/-- A line with a header, from its opening bracket on. -/
def readHeaderLine (d : Draft) (cs : List Char) : Reading (Draft × List Char) :=
  labelled "table header" <|
    match cs with
    | '[' :: '[' :: rest => do
      let ((path, key), rest) ← readHeader [']', ']'] rest
      pure (← (do Draft.openItem (← d.close) path key).mapError Trouble.ofCause, rest)
    | '[' :: c :: rest => do
      let ((path, key), rest) ← readHeader [']'] (c :: rest)
      pure (← (do Draft.openTable (← d.close) path key).mapError Trouble.ofCause, rest)
    | _ => .error .plain

/-- All lines; the length of the text is fuel enough. -/
def readAllLines : Nat → Draft → List Char → Reading Draft
  | 0, d, _ => .ok d
  | fuel + 1, d, cs =>
    match skipBlanks cs with
    | [] => .ok d
    | c :: rest =>
      if c = '#' then do readAllLines fuel d (← lineEnd (rest.dropWhile inComment))
      else if c = '[' then do
        let (d, rest) ← readHeaderLine d (c :: rest)
        readAllLines fuel d rest
      else if c = '\n' ∨ c = '\r' then
        match afterNewline? (c :: rest) with
        | some rest => readAllLines fuel d rest
        | none => .error .plain
      else do
        let (d, rest) ← readLine d (c :: rest)
        readAllLines fuel d rest

/-- A text without the byte order mark that may begin it. -/
def withoutMark : List Char → List Char
  | c :: rest => if c.toNat = 0xFEFF then rest else c :: rest
  | [] => []

/-- The root table of a document. -/
def readDocument (cs : List Char) : Reading Toml := do
  let cs := withoutMark cs
  let d ← readAllLines (cs.length + 1) .start cs
  let root ← d.close.mapError Trouble.ofCause
  pure root.toToml

/-- The root table of a text, or the message that says what is wrong with it. -/
def parse (text : String) : Except String Toml :=
  (readDocument text.toList).mapError Trouble.message

end IngestWatch.Toml
