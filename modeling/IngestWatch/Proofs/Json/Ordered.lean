import IngestWatch.Proofs.Json.Documents
import IngestWatch.Proofs.Keyed

/-!
Values whose objects are in order. The members of an object lie in ascending order of their keys,
each key once, however deep the object lies; a reader gives no other values, whatever the order
in which the members come in the text.
-/

namespace IngestWatch

namespace Keyed

variable {α : Type} {members : List (String × α)}

/-- Nothing is in an ordered list that was not put there. -/
theorem mem_foldl_insert {m : String × α} {sorted : List (String × α)}
    (inside : m ∈ members.foldl (fun sorted m => insert m.1 m.2 sorted) sorted) :
    m ∈ members ∨ m ∈ sorted := by
  induction members generalizing sorted with
  | nil => exact .inr inside
  | cons first rest ih =>
    rcases ih inside with later | before
    · exact .inl (.tail _ later)
    · rcases mem_insert before with rfl | old
      · exact .inl List.mem_cons_self
      · exact .inr old

theorem mem_of_mem_ofList {m : String × α} (inside : m ∈ ofList members) : m ∈ members :=
  (mem_foldl_insert inside).resolve_right List.not_mem_nil

end Keyed

namespace Json

/-- Every object in the value has its members in ascending order. -/
inductive Ordered : Json → Prop where
  | null : Ordered .null
  | bool (b : Bool) : Ordered (.bool b)
  | int (k : Int) : Ordered (.int k)
  | real (x : Decimal.Binary64) : Ordered (.real x)
  | str (s : String) : Ordered (.str s)
  | arr {items : List Json} (each : ∀ v ∈ items, Ordered v) : Ordered (.arr items)
  | obj {members : List (String × Json)} (ascending : Keyed.Ascending members)
      (each : ∀ m ∈ members, Ordered m.2) : Ordered (.obj members)

theorem Ordered.items {items : List Json} (ordered : Ordered (.arr items)) :
    ∀ v ∈ items, v.Ordered := by
  cases ordered with
  | arr each => exact each

theorem Ordered.members {members : List (String × Json)} (ordered : Ordered (.obj members)) :
    Keyed.Ascending members ∧ ∀ m ∈ members, m.2.Ordered := by
  cases ordered with
  | obj ascending each => exact ⟨ascending, each⟩

theorem ordered_of_number {v : Json} (number : v.kind = "a number") : v.Ordered := by
  cases v with
  | int k => exact .int k
  | real x => exact .real x
  | _ => exact absurd number (by simp [kind])

theorem Scalar.ordered {v : Json} {text : List Char} (scalar : Scalar v text) : v.Ordered := by
  cases scalar with
  | null => exact .null
  | yes | no => exact .bool _
  | quoted _ => exact .str _
  | number numeral =>
    cases numeral with
    | plain _ takes | negative _ takes => exact ordered_of_number (kind_of_takes_number takes)

/-- Whatever the members are, and in whatever order, the object of them is in order. -/
theorem ordered_ofMembers {members : List (String × Json)} (each : ∀ m ∈ members, m.2.Ordered) :
    (ofMembers members).Ordered :=
  .obj (Keyed.ascending_ofList members) fun m inside => each m (Keyed.mem_of_mem_ofList inside)

theorem Means.ordered {depth : Nat} {v : Json} {text : List Char} (means : Means depth v text) :
    v.Ordered := by
  induction depth generalizing v text with
  | zero => exact Scalar.ordered means
  | succ depth ih =>
    rcases means with scalar | container
    · exact scalar.ordered
    cases container with
    | emptyList _ => exact .arr (List.forall_mem_nil _)
    | list _ each =>
      have both := each.imp fun v text means => And.intro (ih means) means
      exact .arr ((List.forall₂_and_left _ _).mp both).1
    | object _ each =>
      have both := each.imp fun m raw entry => And.intro (ih entry.2) entry
      exact ordered_ofMembers ((List.forall₂_and_left _ _).mp both).1

/-- What is read is in order. -/
theorem ordered_of_parse {depth : Nat} {text : String} {v : Json}
    (read : parse depth text = .ok v) : v.Ordered := by
  obtain ⟨_, _, _, _, _, _, means⟩ := parse_eq_ok_iff.mp read
  exact means.ordered

end Json

end IngestWatch
