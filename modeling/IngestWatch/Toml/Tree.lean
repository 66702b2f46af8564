import IngestWatch.Toml
import IngestWatch.Toml.Quote

/-!
The tables of a document while it is read. A table remembers whether it was only
mentioned on the way to another one and whether a dotted key made it, because both
decide what may still be added to it.
-/

namespace IngestWatch.Toml

/-- A table of nodes. `implicit` if no header named it, `dotted` if a dotted key made it. -/
structure Layer (ν : Type) where
  implicit : Bool
  dotted : Bool
  members : List (String × ν)

/-- What a key of an unfinished table holds. -/
inductive Node where
  | value (v : Toml)
  | table (layer : Layer Node)
  | tables (layers : List (Layer Node))

/-- A table under construction. -/
abbrev Table := Layer Node

namespace Table

/-- A table that was named, without members. -/
def empty : Table := ⟨false, false, []⟩

/-- The node under a key. -/
def find? (key : String) (t : Table) : Option Node :=
  t.members.lookup key

/-- Puts a node under a key: in place if the key is there, else at the end. -/
def set (key : String) (node : Node) (t : Table) : Table :=
  if (t.find? key).isSome then
    { t with members := t.members.map fun m => if m.1 = key then (key, node) else m }
  else { t with members := t.members ++ [(key, node)] }

def erase (key : String) (t : Table) : Table :=
  { t with members := t.members.filter fun m => m.1 ≠ key }

end Table

/-- The kind of a finished value as a part of a path. -/
def kindOnPath : Toml → String
  | .table _ => "inline table"
  | v => v.kind

/-- Visits the table at the end of a path: gives what the visit gives, and the whole
table with the visited one changed. Tables that are missing on the way are made. A
dotted key may go through no table that has a header of its own; a list of tables
stands for its last one. -/
def visit {α : Type} (dotted : Bool) (walked : List String) :
    List String → Table → (Table → Except Cause (α × Table)) → Except Cause (α × Table)
  | [], t, change => change t
  | key :: path, t, change =>
    let walked := walked ++ [key]
    match t.find? key with
    | none => do
      let (a, child) ← visit dotted walked path ⟨true, dotted, []⟩ change
      pure (a, t.set key (.table child))
    | some (.table child) =>
      if dotted ∧ ¬ child.implicit then .error (.doubledKey key none)
      else do
        let (a, child) ← visit dotted walked path child change
        pure (a, t.set key (.table child))
    | some (.tables layers) => do
      let (a, last) ← visit dotted walked path (layers.getLast?.getD Table.empty) change
      pure (a, t.set key (.tables (layers.dropLast ++ [last])))
    | some (.value v) => .error (.notTable walked (kindOnPath v))

/-- Changes the table at the end of a path. -/
def changeAt (dotted : Bool) (path : List String) (t : Table)
    (change : Table → Except Cause Table) : Except Cause Table := do
  let (_, t) ← visit dotted [] path t fun t => do pure ((), ← change t)
  pure t

/-- Adds a key and its value to a table at the end of a path; `here` names the table
in complaints. A dotted key adds only to tables made by dotted keys. -/
def addMember (here : Option (List String)) (path : List String) (key : String) (v : Toml)
    (t : Table) : Except Cause Table :=
  changeAt true path t fun t =>
    if t.dotted = path.isEmpty then .error (.doubledKey key none)
    else if (t.find? key).isSome then .error (.doubledKey key here)
    else .ok (t.set key (.value v))

/-! ## Inline tables -/

/-- Changes an inline table at the end of a path. No finished table may be extended. -/
def changeInline (walked : List String) : List String → Table → (Table → Except Cause Table) →
    Except Cause Table
  | [], t, change => change t
  | key :: path, t, change =>
    let walked := walked ++ [key]
    match t.find? key with
    | none => do
      let child ← changeInline walked path ⟨true, true, []⟩ change
      pure (t.set key (.table child))
    | some (.table child) => do
      pure (t.set key (.table (← changeInline walked path child change)))
    | some (.tables _) => .error (.doubledKey key none)
    | some (.value (.table _)) => .error (.doubledKey key none)
    | some (.value v) => .error (.notTable walked (kindOnPath v))

/-- Adds a key and its value to an inline table. -/
def addInline (path : List String) (key : String) (v : Toml) (t : Table) : Except Cause Table :=
  changeInline [] path t fun t =>
    if t.dotted = path.isEmpty then .error (.doubledKey key none)
    else if (t.find? key).isSome then .error (.doubledKey key none)
    else .ok (t.set key (.value v))

/-! ## Finished values -/

mutual

def Node.toToml : Node → Toml
  | .value v => v
  | .table layer => .table (layerToToml layer)
  | .tables layers => .list true (layersToToml layers)

def layerToToml : Layer Node → List (String × Toml)
  | ⟨_, _, members⟩ => membersToToml members

def membersToToml : List (String × Node) → List (String × Toml)
  | [] => []
  | (key, node) :: rest => (key, node.toToml) :: membersToToml rest

def layersToToml : List (Layer Node) → List Toml
  | [] => []
  | layer :: rest => .table (layerToToml layer) :: layersToToml rest

end

/-- The finished table. -/
def Table.toToml (t : Table) : Toml :=
  .table (layerToToml t)

end IngestWatch.Toml
