/-!
Association lists kept in ascending order of their keys, each key once. JSON
objects and the component levels of the log are such lists, so the order in
which members arrive never shows in what is written.
-/

namespace IngestWatch.Keyed

variable {α : Type}

/-- Puts a member at its place; a key that is already there takes the new value. -/
def insert (key : String) (value : α) : List (String × α) → List (String × α)
  | [] => [(key, value)]
  | (k, v) :: rest =>
    if key < k then (key, value) :: (k, v) :: rest
    else if key = k then (key, value) :: rest
    else (k, v) :: insert key value rest

/-- The value under a key. -/
def find? (key : String) : List (String × α) → Option α
  | [] => none
  | (k, v) :: rest => if key = k then some v else find? key rest

/-- The members of any list in ascending order; of two with one key the later counts. -/
def ofList (members : List (String × α)) : List (String × α) :=
  members.foldl (fun sorted m => insert m.1 m.2 sorted) []

/-- Every key is smaller than all keys after it. -/
def Ascending (members : List (String × α)) : Prop :=
  members.Pairwise (fun a b => a.1 < b.1)

end IngestWatch.Keyed
