import IngestWatch.Proofs.Codec.Record
import IngestWatch.Proofs.Keyed

/-!
What holds of everything that is read, whatever the text. Numbers lie within the bounds of their
form, texts under keys are in order, and a record keeps what its start satisfies and the value of
no field spoils, whether it is written as an object or as a list.
-/

namespace IngestWatch

open Json

namespace Codec

variable {α β : Type}

/-- Whatever a form reads satisfies a property. -/
def Gives (c : Codec α) (P : α → Prop) : Prop :=
  ∀ {depth : Nat} {cs rest : List Char} {v : α}, c.read depth cs = .ok (v, rest) → P v

theorem Gives.parse {c : Codec α} {P : α → Prop} (gives : c.Gives P) {text : String} {v : α}
    (parsed : c.parse text = .ok v) : P v := by
  obtain ⟨⟨w, rest⟩, read, ended⟩ := bind_eq_ok.mp (mapError_eq_ok.mp parsed)
  dsimp only at ended
  split at ended
  · obtain rfl : w = v := Except.ok.inj ended
    exact gives read
  · cases ended

theorem gives_whole (low high : Int) (wanted : String) :
    (whole low high wanted).Gives fun n => low ≤ n ∧ n ≤ high := by
  intro depth cs rest n read
  have within {reading : Reading (Json × List Char)}
      (scanned : readWithin low high wanted reading = .ok (n, rest)) : low ≤ n ∧ n ≤ high := by
    obtain ⟨⟨number, behind⟩, -, checked⟩ := bind_eq_ok.mp scanned
    obtain ⟨m, bounded, same⟩ := bind_eq_ok.mp checked
    obtain ⟨rfl, -⟩ := Prod.mk.inj (Except.ok.inj same)
    have bounded := mapError_eq_ok.mp bounded
    unfold whole? at bounded
    split at bounded
    · split at bounded
      case isTrue inside =>
        obtain rfl := Except.ok.inj bounded
        exact inside
      case isFalse => cases bounded
    · cases bounded
  simp only [whole] at read
  split at read
  · cases read
  · exact within read
  · split at read
    · exact within read
    · cases read

theorem gives_texts : texts.Gives Keyed.Ascending := by
  intro depth cs rest members read
  simp only [texts] at read
  split at read
  · cases read
  · split at read
    · cases read
    · rw [readTexts_eq] at read
      refine readObject_keeps (I := Keyed.Ascending) (P := Keyed.Ascending) ?_ ?_ .nil read
      · intro sorted key cs sorted' rest ascending taken
        obtain ⟨behind, -, taken⟩ := bind_eq_ok.mp taken
        obtain ⟨⟨value, left⟩, -, same⟩ := bind_eq_ok.mp taken
        obtain ⟨rfl, -⟩ := Prod.mk.inj (Except.ok.inj same)
        exact ascending.insert key value
      · intro sorted cs v rest ascending closed
        obtain ⟨rfl, -⟩ := Prod.mk.inj (Except.ok.inj closed)
        exact ascending
  · cases read

theorem Gives.option {c : Codec α} {P : α → Prop} (gives : c.Gives P) :
    c.option.Gives fun v => ∀ x, v = some x → P x := by
  intro depth cs rest v read
  simp only [Codec.option] at read
  split at read
  · obtain ⟨behind, -, same⟩ := map_eq_ok.mp read
    obtain ⟨rfl, -⟩ := Prod.mk.inj same
    rintro _ ⟨⟩
  · obtain ⟨⟨x, behind⟩, own, same⟩ := map_eq_ok.mp read
    obtain ⟨rfl, -⟩ := Prod.mk.inj same
    rintro _ ⟨⟩
    exact gives own

end Codec

/-! ## Fields -/

namespace Field

variable {ρ α : Type} {c : Codec α} {name : String} {I : ρ → Prop} {P : α → Prop}

/-- Whatever is read for a field, its value spoils nothing of what a record satisfies. -/
def Preserves (f : Field ρ) (I : ρ → Prop) : Prop :=
  ∀ {depth : Nat} {cs rest : List Char} {change : ρ → ρ},
    f.read depth cs = .ok (change, rest) → ∀ x, I x → I (change x)

theorem preserves_always {get : ρ → α} {put : α → ρ → ρ} (gives : c.Gives P)
    (keeps : ∀ v x, P v → I x → I (put v x)) : (always name c get put).Preserves I := by
  intro depth cs rest change read x kept
  obtain ⟨⟨v, behind⟩, own, same⟩ := map_eq_ok.mp read
  obtain ⟨rfl, -⟩ := Prod.mk.inj same
  exact keeps v x (gives own) kept

theorem preserves_whenSet {get : ρ → Option α} {put : Option α → ρ → ρ} (gives : c.Gives P)
    (keeps : ∀ v x, (∀ y, v = some y → P y) → I x → I (put v x)) :
    (whenSet name c get put).Preserves I := by
  intro depth cs rest change read x kept
  obtain ⟨⟨v, behind⟩, own, same⟩ := map_eq_ok.mp read
  obtain ⟨rfl, -⟩ := Prod.mk.inj same
  exact keeps v x (gives.option own) kept

end Field

/-! ## Records -/

namespace Record

variable {ρ : Type} {r : Record ρ} {I : ρ → Prop}

theorem value_of_finish {d : Draft ρ} {x : ρ} (finished : r.finish d = .ok x) : d.value = x := by
  unfold finish at finished
  split at finished
  · split at finished
    · cases finished
    · exact Except.ok.inj finished
  · exact Except.ok.inj finished

theorem value_of_finishList {count : Nat} {d : Draft ρ} {x : ρ}
    (finished : r.finishList count d = .ok x) : d.value = x := by
  unfold finishList at finished
  split at finished
  · cases finished
  · exact Except.ok.inj finished

theorem readListEnd_keeps {count : Nat} {d : Draft ρ} {cs rest : List Char} {x : ρ}
    (kept : I d.value) (read : r.readListEnd count d cs = .ok (x, rest)) : I x := by
  unfold readListEnd at read
  split at read
  · cases read
  case h_2 y finished =>
    obtain ⟨behind, -, same⟩ := map_eq_ok.mp read
    obtain ⟨rfl, -⟩ := Prod.mk.inj same
    rw [← value_of_finishList finished]
    exact kept

section
variable (keeps : ∀ f ∈ r.fields, f.Preserves I)
include keeps

theorem readMembers_keeps {depth fuel : Nat} {first : Bool} {d : Draft ρ} {cs rest : List Char}
    {x : ρ} (kept : I d.value) (read : r.readMembers depth fuel first d cs = .ok (x, rest)) :
    I x := by
  rw [readMembers_eq] at read
  refine readObject_keeps (I := fun d : Draft ρ => I d.value) (P := I) ?_ ?_ kept read
  · intro d key cs d' rest kept taken
    unfold readMember at taken
    cases found : Field.find? key r.fields with
    | none =>
      rw [found] at taken
      obtain ⟨behind, -, taken⟩ := bind_eq_ok.mp taken
      obtain ⟨left, -, same⟩ := bind_eq_ok.mp taken
      obtain ⟨rfl, -⟩ := Prod.mk.inj (Except.ok.inj same)
      exact kept
    | some f =>
      rw [found] at taken
      dsimp only at taken
      split at taken
      · cases taken
      · obtain ⟨behind, -, taken⟩ := bind_eq_ok.mp taken
        obtain ⟨⟨change, left⟩, own, same⟩ := bind_eq_ok.mp taken
        obtain ⟨rfl, -⟩ := Prod.mk.inj (Except.ok.inj same)
        exact keeps f (List.mem_of_find?_eq_some found) own d.value kept
  · intro d cs x rest kept closed
    obtain ⟨y, finished, same⟩ := bind_eq_ok.mp closed
    obtain ⟨rfl, -⟩ := Prod.mk.inj (Except.ok.inj same)
    rw [← value_of_finish (mapError_eq_ok.mp finished)]
    exact kept

theorem readItems_keeps {depth : Nat} {fields : List (Field ρ)} (known : ∀ f ∈ fields, f ∈ r.fields)
    {count : Nat} {d : Draft ρ} {cs rest : List Char} {x : ρ} (kept : I d.value)
    (read : r.readItems depth fields count d cs = .ok (x, rest)) : I x := by
  induction fields generalizing count d cs with
  | nil => exact readListEnd_keeps kept read
  | cons f fields ih =>
    obtain ⟨own, others⟩ := List.forall_mem_cons.mp known
    have item {cs : List Char} (more : r.readItem depth f fields count d cs = .ok (x, rest)) :
        I x := by
      obtain ⟨⟨change, behind⟩, taken, more⟩ := bind_eq_ok.mp more
      exact ih others (keeps f own taken d.value kept) more
    rw [readItems] at read
    split at read
    · cases read
    · exact readListEnd_keeps kept read
    · split at read
      · exact item read
      · split at read
        · split at read
          · cases read
          · cases read
          · exact item read
        · cases read

/-- What the start of a record satisfies and no field spoils holds of every record read. -/
theorem gives_codec (start : I r.start) : r.codec.Gives I := by
  intro depth cs rest x read
  have read : r.read depth cs = .ok (x, rest) := read
  unfold Record.read at read
  split at read
  · cases read
  · split at read
    · split at read
      · cases read
      · exact readItems_keeps keeps (fun _ known => known) start read
    · split at read
      · split at read
        · cases read
        · exact readMembers_keeps keeps start read
      · cases read

end

end Record

end IngestWatch
