import IngestWatch.Codec.Record
import IngestWatch.Proofs.Outcome

/-!
Records read from a document, field by field. A document may write a record as a table with
the names of its fields or as a list of their values. Either way a record that is read holds
for each field what the document says of it, and where it says nothing the value that the
record starts with.
-/

namespace IngestWatch

/-- The value that a document value stands for. -/
def Codec.value? {α : Type} (c : Codec α) (v : Toml) : Option α :=
  (c.ofToml v).toOption

/-! ## Fields -/

namespace Field

variable {ρ α β : Type} {get : ρ → α}

/-- To read the field leaves a part of the record as it is. -/
def Keeps (f : Field ρ) (get : ρ → α) : Prop :=
  ∀ v change, f.ofToml v = .ok change → ∀ x, get (change x) = get x

/-- To read the field makes a part of the record what the document value stands for. -/
def Gives (f : Field ρ) (get : ρ → α) (value? : Toml → Option α) : Prop :=
  ∀ v change, f.ofToml v = .ok change → ∀ x, value? v = some (get (change x))

variable {name : String} {c : Codec β} {put : β → ρ → ρ} {own : ρ → β}

@[simp] theorem name_always : (always name c own put).name = name := rfl

@[simp] theorem keeps_always (keeps : ∀ v x, get (put v x) = get x) :
    (always name c own put).Keeps get := by
  intro v change read x
  obtain ⟨value, -, rfl⟩ := map_eq_ok.mp read
  exact keeps value x

@[simp] theorem gives_always {get : ρ → β} (gives : ∀ v x, get (put v x) = v) :
    (always name c own put).Gives get c.value? := by
  intro v change read x
  obtain ⟨value, found, rfl⟩ := map_eq_ok.mp read
  have given : c.value? v = some value := congrArg Except.toOption found
  rw [given, gives]

variable {put : Option β → ρ → ρ} {own : ρ → Option β}

@[simp] theorem name_whenSet : (whenSet name c own put).name = name := rfl

@[simp] theorem keeps_whenSet (keeps : ∀ v x, get (put v x) = get x) :
    (whenSet name c own put).Keeps get := by
  intro v change read x
  obtain ⟨value, -, rfl⟩ := map_eq_ok.mp read
  exact keeps value x

@[simp] theorem gives_whenSet {get : ρ → Option β} (gives : ∀ v x, get (put v x) = v) :
    (whenSet name c own put).Gives get fun v => (c.value? v).map some := by
  intro v change read x
  obtain ⟨set, outer, rfl⟩ := map_eq_ok.mp read
  have inner : (c.ofToml v).map some = .ok set := outer
  obtain ⟨value, found, rfl⟩ := map_eq_ok.mp inner
  have given : c.value? v = some value := congrArg Except.toOption found
  simp only [given, gives, Option.map_some]

end Field

/-! ## Records -/

namespace Record

variable {ρ α : Type} {r : Record ρ} {get : ρ → α} {name : String} {value? : Toml → Option α}

/-- One field of a record makes up a part of it, and no other field touches that. -/
structure Tells (r : Record ρ) (name : String) (get : ρ → α) (value? : Toml → Option α) :
    Prop where
  known : name ∈ r.fields.map Field.name
  own : ∀ f ∈ r.fields, f.name = name → f.Gives get value?
  others : ∀ f ∈ r.fields, f.name ≠ name → f.Keeps get

/-- What a document value says under the names of the fields. -/
def entries (r : Record ρ) : Toml → List (String × Toml)
  | .list _ items => (r.fields.map Field.name).zip items
  | v => v.members?.getD []

def given? (r : Record ρ) (v : Toml) (name : String) : Option Toml :=
  (r.entries v).lookup name

/-- A part of a record is what is said of it, or what it was where nothing is said. -/
def Overlaid (value? : Toml → Option α) (said : Option Toml) (before after : α) : Prop :=
  match said with
  | some v => value? v = some after
  | none => after = before

theorem Overlaid.eq_getD {said : Option Toml} {before after : α}
    (laid : Overlaid value? said before after) : after = (said.bind value?).getD before := by
  cases said with
  | none => exact laid
  | some v =>
    have given : value? v = some after := laid
    rw [Option.bind_some, given, Option.getD_some]

theorem Overlaid.eq_or {value? : Toml → Option α} {said : Option Toml} {before after : Option α}
    (laid : Overlaid (fun v => (value? v).map some) said before after) :
    after = (said.bind value?).or before := by
  cases said with
  | none => exact laid
  | some v =>
    obtain ⟨value, given, same⟩ := Option.map_eq_some_iff.mp laid
    rw [Option.bind_some, given, Option.some_or, same]

theorem get_of_takeMembers (tells : r.Tells name get value?) {members : List (String × Toml)}
    {d d' : Draft ρ} (taken : r.takeMembers d members = .ok d') :
    Overlaid value? (members.lookup name) (get d.value) (get d'.value) ∧
      (name ∈ d.seen → members.lookup name = none) := by
  induction members generalizing d with
  | nil =>
    obtain rfl := Except.ok.inj taken
    exact ⟨rfl, fun _ => rfl⟩
  | cons member rest ih =>
    obtain ⟨key, v⟩ := member
    rw [takeMembers] at taken
    by_cases same : name = key
    · subst same
      obtain ⟨p, member, here⟩ := List.mem_map.mp tells.known
      obtain ⟨f, found⟩ : ∃ f, Field.find? name r.fields = some f := by
        rw [← Option.isSome_iff_exists, Field.find?, List.find?_isSome]
        exact ⟨p, member, by simpa using here⟩
      have named : f.name = name := by simpa using List.find?_some found
      have gives := tells.own f (List.mem_of_find?_eq_some found) named
      simp only [found] at taken
      split at taken
      · cases taken
      · next unseen =>
        obtain ⟨change, read, later⟩ := bind_eq_ok.mp taken
        obtain ⟨value, once⟩ := ih later
        -- The field counts as seen from now on, so the members behind do not speak of it.
        have first : name ∈ (d.put name change).seen := List.mem_cons_self
        rw [once first] at value
        have kept : get d'.value = get (change d.value) := value
        rw [List.lookup_cons_self, kept]
        exact ⟨gives v change read d.value, fun seen => absurd seen (by simpa using unseen)⟩
    · have other : (name == key) = false := by simpa using same
      rw [List.lookup_cons, other]
      cases found : Field.find? key r.fields with
      | none =>
        simp only [found] at taken
        exact ih taken
      | some f =>
        have named : f.name = key := by simpa using List.find?_some found
        have keeps := tells.others f (List.mem_of_find?_eq_some found) (named ▸ Ne.symm same)
        simp only [found] at taken
        split at taken
        · cases taken
        · obtain ⟨change, read, later⟩ := bind_eq_ok.mp taken
          obtain ⟨value, once⟩ := ih later
          have kept : get (d.put key change).value = get d.value := keeps v change read d.value
          rw [kept] at value
          exact ⟨value, fun seen => once (List.mem_cons_of_mem _ seen)⟩

/-- The same for the values of a list, of which each belongs to a field. -/
theorem get_of_takeItems {fields : List (Field ρ)} {count : Nat} {d : Draft ρ} {items : List Toml}
    {x : ρ} (distinct : (fields.map Field.name).Nodup)
    (own : ∀ f ∈ fields, f.name = name → f.Gives get value?)
    (others : ∀ f ∈ fields, f.name ≠ name → f.Keeps get)
    (taken : r.takeItems fields count d items = .ok x) :
    Overlaid value? (((fields.map Field.name).zip items).lookup name) (get d.value) (get x) := by
  have finish {count : Nat} {d : Draft ρ} (finished : r.finishList count d = .ok x) :
      get x = get d.value := by
    unfold finishList at finished
    split at finished
    · cases finished
    · rw [← Except.ok.inj finished]
  induction fields generalizing count d items with
  | nil =>
    rw [takeItems] at taken
    · exact finish taken
    · simp
  | cons f rest ih =>
    cases items with
    | nil =>
      rw [takeItems] at taken
      · rw [List.zip_nil_right]
        exact finish taken
      · simp
    | cons v items =>
      rw [takeItems] at taken
      obtain ⟨change, read, later⟩ := bind_eq_ok.mp taken
      rw [List.map_cons, List.nodup_cons] at distinct
      have value := ih distinct.2 (fun g member => own g (.tail _ member))
        (fun g member => others g (.tail _ member)) later
      rw [List.map_cons, List.zip_cons_cons]
      by_cases same : f.name = name
      · subst same
        have alone : ((rest.map Field.name).zip items).lookup f.name = none := by
          rw [List.lookup_eq_none_iff]
          intro e member
          have inside := (List.of_mem_zip member).1
          exact bne_iff_ne.mpr fun equal => distinct.1 (equal ▸ inside)
        rw [alone] at value
        have kept : get x = get (change d.value) := value
        rw [List.lookup_cons_self, kept]
        exact own f List.mem_cons_self rfl v change read d.value
      · have other : (name == f.name) = false := by simpa using Ne.symm same
        have keeps : get (d.put f.name change).value = get d.value :=
          others f List.mem_cons_self same v change read d.value
        rw [keeps] at value
        rw [List.lookup_cons, other]
        exact value

/-- A record that is read is its start overlaid by what the document says. -/
theorem get_of_ofToml (tells : r.Tells name get value?) (distinct : (r.fields.map Field.name).Nodup)
    {v : Toml} {x : ρ} (read : r.ofToml v = .ok x) :
    Overlaid value? (r.given? v name) (get r.start) (get x) := by
  have members {members : List (String × Toml)}
      (read : (r.takeMembers ⟨r.start, []⟩ members >>= r.finish) = .ok x) :
      Overlaid value? (members.lookup name) (get r.start) (get x) := by
    obtain ⟨d, taken, finished⟩ := bind_eq_ok.mp read
    have same : d.value = x := by
      unfold finish at finished
      split at finished
      · split at finished
        · cases finished
        · exact Except.ok.inj finished
      · exact Except.ok.inj finished
    rw [← same]
    exact (get_of_takeMembers tells taken).1
  unfold ofToml at read
  split at read
  · exact get_of_takeItems distinct tells.own tells.others read
  · next noList =>
    split at read
    · next entries found =>
      have entries : r.entries v = entries := by
        unfold Record.entries
        split
        · exact (noList _ _ rfl).elim
        · rw [found, Option.getD_some]
      rw [given?, entries]
      exact members read
    · cases read

end Record

end IngestWatch
