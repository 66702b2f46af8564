import IngestWatch.Proofs.Codec.Record
import IngestWatch.Proofs.Keyed

/-!
Records that a document writes in part. The members of a document may come in any order and with
strangers among them: where no key comes twice and no field touches what another field writes, the
record is its start with one field after the other laid over it, in the order of the fields.
-/

namespace IngestWatch

namespace Record

variable {ρ V : Type} (decode : Field ρ → V → Option (ρ → ρ))

/-- Lays over a record what is said under the name of a field, if anything is. -/
def layField (members : List (String × V)) (x : ρ) (f : Field ρ) : Option ρ :=
  match members.lookup f.name with
  | some v => (decode f v).map fun change => change x
  | none => some x

/-- The start of a record, overlaid field by field by what is said. -/
def laid (r : Record ρ) (members : List (String × V)) : Option ρ :=
  r.fields.foldlM (layField decode members) r.start

/-- No two fields write the same part of a record. -/
def Apart (f g : Field ρ) : Prop :=
  ∀ v w a b, decode f v = some a → decode g w = some b → ∀ x, a (b x) = b (a x)

variable {decode} {fields : List (Field ρ)} {f : Field ρ} {key : String} {v : V}
  {members : List (String × V)}

/-- The overlay depends on nothing but what is said under the names of the fields. -/
theorem foldlM_layField_congr {others : List (String × V)}
    (alike : ∀ f ∈ fields, members.lookup f.name = others.lookup f.name) (x : ρ) :
    fields.foldlM (layField decode members) x = fields.foldlM (layField decode others) x := by
  induction fields generalizing x with
  | nil => rfl
  | cons f fields ih =>
    rw [List.foldlM_cons, List.foldlM_cons, layField, layField, alike f List.mem_cons_self]
    exact congrArg _ (funext (ih fun g member => alike g (.tail _ member)))

theorem lookup_stranger (other : f.name ≠ key) :
    List.lookup f.name ((key, v) :: members) = members.lookup f.name := by
  have none : (f.name == key) = false := by simpa using other
  rw [List.lookup_cons, none]

/-- What is said under a stranger's name is passed over. -/
theorem foldlM_layField_stranger (strange : ∀ f ∈ fields, f.name ≠ key) (x : ρ) :
    fields.foldlM (layField decode ((key, v) :: members)) x =
      fields.foldlM (layField decode members) x :=
  foldlM_layField_congr (fun f member => lookup_stranger (strange f member)) x

theorem layField_own (x : ρ) :
    layField decode ((f.name, v) :: members) x f = (decode f v).map fun change => change x := by
  rw [layField, List.lookup_cons_self]

/-- What no field can decode spoils the record. -/
theorem foldlM_layField_undecoded (known : f ∈ fields) (undecoded : decode f v = none) (x : ρ) :
    fields.foldlM (layField decode ((f.name, v) :: members)) x = none := by
  induction fields generalizing x with
  | nil => cases known
  | cons g fields ih =>
    rw [List.foldlM_cons]
    rcases List.mem_cons.mp known with rfl | later
    · rw [layField_own, undecoded]
      rfl
    · cases layField decode ((f.name, v) :: members) x g with
      | none => rfl
      | some y => exact ih later y

/-- A change may as well be made first, since no other field notices. -/
theorem foldlM_layField_first (distinct : (fields.map Field.name).Nodup) (known : f ∈ fields)
    (apart : ∀ g ∈ fields, g.name ≠ f.name → Apart decode g f)
    (silent : members.lookup f.name = none) {change : ρ → ρ} (decoded : decode f v = some change)
    (x : ρ) :
    fields.foldlM (layField decode ((f.name, v) :: members)) x =
      fields.foldlM (layField decode members) (change x) := by
  induction fields generalizing x with
  | nil => cases known
  | cons g fields ih =>
    rw [List.map_cons, List.nodup_cons] at distinct
    rw [List.foldlM_cons, List.foldlM_cons]
    rcases List.mem_cons.mp known with rfl | later
    · have own : layField decode members (change x) f = some (change x) := by
        rw [layField, silent]
      have strange : ∀ g ∈ fields, g.name ≠ f.name := fun g member same =>
        distinct.1 (List.mem_map.mpr ⟨g, member, same⟩)
      rw [layField_own, decoded, own]
      exact foldlM_layField_stranger strange (change x)
    · have other : g.name ≠ f.name := fun same =>
        distinct.1 (List.mem_map.mpr ⟨f, later, same.symm⟩)
      have onwards := ih distinct.2 later fun g member => apart g (.tail _ member)
      rw [layField, lookup_stranger other, layField]
      cases members.lookup g.name with
      | none => exact onwards x
      | some w =>
        cases written : decode g w with
        | none =>
          simp only [written]
          rfl
        | some b =>
          have commute := apart g List.mem_cons_self other w v b change written decoded x
          have step := onwards (b x)
          rw [← commute] at step
          simp only [written]
          exact step

/-- Members taken one after the other, in whatever order they come, lay the fields over the
draft. -/
theorem foldlM_takeField (r : Record ρ) (distinct : (r.fields.map Field.name).Nodup)
    (apart : ∀ f ∈ r.fields, ∀ g ∈ r.fields, f.name ≠ g.name → Apart decode f g)
    (once : (members.map Prod.fst).Nodup) {d : Draft ρ}
    (unseen : ∀ key ∈ members.map Prod.fst, key ∉ d.seen) :
    (members.foldlM (fun d m => r.takeField decode d m.1 m.2) d).map Draft.value =
      r.fields.foldlM (layField decode members) d.value := by
  induction members generalizing d with
  | nil =>
    have silent (fields : List (Field ρ)) (x : ρ) :
        fields.foldlM (layField decode []) x = some x := by
      induction fields with
      | nil => rfl
      | cons f fields ih => exact ih
    rw [silent]
    rfl
  | cons m members ih =>
    obtain ⟨key, v⟩ := m
    rw [List.map_cons, List.nodup_cons] at once
    rw [List.foldlM_cons, takeField]
    cases found : Field.find? key r.fields with
    | none =>
      have strange : ∀ f ∈ r.fields, f.name ≠ key := by
        simpa [Field.find?] using found
      rw [foldlM_layField_stranger strange]
      exact ih once.2 fun key member => unseen key (.tail _ member)
    | some f =>
      obtain rfl : f.name = key := by simpa using List.find?_some found
      have known : f ∈ r.fields := List.mem_of_find?_eq_some found
      have first : d.seen.contains f.name = false := by
        simpa using unseen f.name List.mem_cons_self
      simp only [first]
      cases decoded : decode f v with
      | none =>
        rw [foldlM_layField_undecoded known decoded]
        rfl
      | some change =>
        have silent : members.lookup f.name = none := by
          rw [List.lookup_eq_none_iff]
          rintro ⟨key, w⟩ member
          exact bne_iff_ne.mpr fun same =>
            once.1 (List.mem_map.mpr ⟨(key, w), member, same.symm⟩)
        rw [foldlM_layField_first distinct known
          (fun g member other => apart g member f known other) silent decoded]
        refine ih (d := d.put f.name change) once.2 fun key member seen => ?_
        rcases List.mem_cons.mp seen with rfl | earlier
        · exact once.1 member
        · exact unseen key (.tail _ member) earlier

/-! ## What the overlay depends on -/

variable {r : Record ρ} {others : List (String × V)}

/-- The record comes about if and only if every field that is spoken of can be decoded. -/
theorem isSome_foldlM_layField_iff (x : ρ) :
    (fields.foldlM (layField decode members) x).isSome ↔
      ∀ f ∈ fields, ∀ v, members.lookup f.name = some v → (decode f v).isSome := by
  induction fields generalizing x with
  | nil => simp
  | cons f fields ih =>
    rw [List.foldlM_cons, List.forall_mem_cons, layField]
    cases said : members.lookup f.name with
    | none =>
      refine (ih x).trans (and_iff_right fun v same => ?_).symm
      cases same
    | some v =>
      simp only [Option.some.injEq, forall_eq']
      cases decode f v with
      | none => simp
      | some change => exact (ih (change x)).trans (and_iff_right rfl).symm

theorem isSome_laid_iff :
    (r.laid decode members).isSome ↔
      ∀ f ∈ r.fields, ∀ v, members.lookup f.name = some v → (decode f v).isSome :=
  isSome_foldlM_layField_iff r.start

/-- The members of a document that some field of a record asks for. -/
def known (r : Record ρ) (members : List (String × V)) : List (String × V) :=
  members.filter fun m => m.1 ∈ r.fields.map Field.name

theorem mem_known {m : String × V} :
    m ∈ r.known members ↔ m ∈ members ∧ m.1 ∈ r.fields.map Field.name := by
  rw [known, List.mem_filter, decide_eq_true_eq]

/-- Neither strangers nor the order of the members matter. -/
theorem laid_of_perm (once : (members.map Prod.fst).Nodup) (once' : (others.map Prod.fst).Nodup)
    (same : (r.known members).Perm (r.known others)) :
    r.laid decode members = r.laid decode others := by
  have lookups : ∀ f ∈ r.fields, members.lookup f.name = others.lookup f.name := by
    intro f member
    have named : f.name ∈ r.fields.map Field.name := List.mem_map.mpr ⟨f, member, rfl⟩
    refine Option.ext fun v => ?_
    rw [Keyed.lookup_eq_some_iff_mem once, Keyed.lookup_eq_some_iff_mem once']
    have iff : (f.name, v) ∈ r.known members ↔ (f.name, v) ∈ r.known others := same.mem_iff
    simpa only [mem_known, named, and_true] using iff
  exact foldlM_layField_congr lookups r.start

end Record

end IngestWatch
