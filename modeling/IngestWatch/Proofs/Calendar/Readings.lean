import IngestWatch.Calendar.Zone
import Mathlib.Tactic
import Mathlib.Order.Bounds.Basic

/-!
When a zone's clocks show a reading. The offsets that were ever in force are all there
is to search, and a larger offset means an earlier instant, so a reading that occurs is
given its first occurrence, however often it occurs. One that never occurs is taken at
the offset of the instant it names in UTC.
-/

namespace IngestWatch.Calendar.Zone

/-- The zone's clocks show the reading at some instant. -/
def Shows (z : Zone) (wall : Int) : Prop :=
  ∃ instant, z.wallAt instant = wall

theorem offsetAt_mem_offsets (z : Zone) (instant : Int) : z.offsetAt instant ∈ z.offsets := by
  obtain ⟨base, changes⟩ := z
  simp only [offsetAt, offsets]
  induction changes generalizing base with
  | nil => simp
  | cons c rest ih =>
    simp only [List.foldl_cons, List.map_cons]
    by_cases reached : c.1 * 1000 ≤ instant
    · rw [if_pos reached]
      exact List.mem_cons_of_mem _ (ih c.2)
    · rw [if_neg reached]
      rcases List.mem_cons.mp (ih base) with same | later
      · rw [same]
        exact List.mem_cons_self
      · exact List.mem_cons_of_mem _ (List.mem_cons_of_mem _ later)

theorem wallAt_eq_iff (z : Zone) (instant wall : Int) :
    z.wallAt instant = wall ↔ instant = wall - z.offsetAt instant * 1000 := by
  unfold wallAt
  omega

/-- The candidates for a reading are the offsets at which it occurs, all of them. -/
theorem mem_offsetsOf_iff (z : Zone) (wall e : Int) :
    e ∈ z.offsetsOf wall ↔ z.wallAt (wall - e * 1000) = wall := by
  have member : z.offsetAt (wall - e * 1000) = e → e ∈ z.offsets := by
    intro inForce
    have mem := z.offsetAt_mem_offsets (wall - e * 1000)
    rwa [inForce] at mem
  rw [offsetsOf, List.mem_filter, decide_eq_true_iff, wallAt]
  constructor
  · rintro ⟨-, inForce⟩
    omega
  · intro shown
    have inForce : z.offsetAt (wall - e * 1000) = e := by omega
    exact ⟨member inForce, inForce⟩

theorem offsetAt_mem_offsetsOf {z : Zone} {instant wall : Int} (shown : z.wallAt instant = wall) :
    z.offsetAt instant ∈ z.offsetsOf wall := by
  rw [mem_offsetsOf_iff, ← (z.wallAt_eq_iff instant wall).mp shown]
  exact shown

theorem isLeast_of_earliest? {z : Zone} {wall instant : Int}
    (h : z.earliest? wall = some instant) : IsLeast {t | z.wallAt t = wall} instant := by
  obtain ⟨e, largest, rfl⟩ := Option.map_eq_some_iff.mp h
  obtain ⟨member, bound⟩ := List.max?_eq_some_iff.mp largest
  constructor
  · exact (z.mem_offsetsOf_iff wall e).mp member
  · intro t shown
    -- the larger offset names the earlier instant
    have smaller := bound _ (offsetAt_mem_offsetsOf shown)
    have placed := (z.wallAt_eq_iff t wall).mp shown
    omega

theorem not_shows_of_earliest? {z : Zone} {wall : Int} (h : z.earliest? wall = none) :
    ¬ z.Shows wall := by
  rintro ⟨t, shown⟩
  have empty : z.offsetsOf wall = [] := by simpa [earliest?] using h
  have member := offsetAt_mem_offsetsOf shown
  rw [empty] at member
  exact List.not_mem_nil member

/-- A reading that occurs is given the first instant at which the clocks show it. -/
theorem instantOf_isLeast {z : Zone} {wall : Int} (h : z.Shows wall) :
    IsLeast {t | z.wallAt t = wall} (z.instantOf wall) := by
  unfold instantOf
  cases earliest : z.earliest? wall with
  | none => exact absurd h (not_shows_of_earliest? earliest)
  | some instant => exact isLeast_of_earliest? earliest

theorem instantOf_of_not_shows {z : Zone} {wall : Int} (h : ¬ z.Shows wall) :
    z.instantOf wall = wall - z.offsetAt wall * 1000 := by
  unfold instantOf
  cases earliest : z.earliest? wall with
  | none => rfl
  | some instant => exact absurd ⟨instant, (isLeast_of_earliest? earliest).1⟩ h

/-- The instant of a reading is not after `t` if the clocks have shown it by `t`, or if
they never show it and `t`, read at the offset it is taken at, is not before it. -/
theorem instantOf_le_iff (z : Zone) (wall t : Int) :
    z.instantOf wall ≤ t ↔
      (∃ s ≤ t, z.wallAt s = wall) ∨ (¬ z.Shows wall ∧ wall ≤ t + z.offsetAt wall * 1000) := by
  by_cases shows : z.Shows wall
  · obtain ⟨shown, least⟩ := instantOf_isLeast shows
    constructor
    · intro early
      exact Or.inl ⟨_, early, shown⟩
    · rintro (⟨s, early, same⟩ | ⟨never, -⟩)
      · exact (least same).trans early
      · exact absurd shows never
  · rw [instantOf_of_not_shows shows]
    constructor
    · intro early
      exact Or.inr ⟨shows, by omega⟩
    · rintro (⟨s, -, same⟩ | ⟨-, bound⟩)
      · exact absurd ⟨s, same⟩ shows
      · omega

/-- The instant of a reading is not before `t` if the clocks have not shown it before `t`
and, should they never show it, `t` read at the offset it is taken at is not past it. -/
theorem le_instantOf_iff (z : Zone) (wall t : Int) :
    t ≤ z.instantOf wall ↔
      (∀ s < t, z.wallAt s ≠ wall) ∧ (z.Shows wall ∨ t + z.offsetAt wall * 1000 ≤ wall) := by
  by_cases shows : z.Shows wall
  · obtain ⟨shown, least⟩ := instantOf_isLeast shows
    constructor
    · intro late
      refine ⟨?_, Or.inl shows⟩
      intro s before same
      exact absurd (late.trans (least same)) (by omega)
    · rintro ⟨never, -⟩
      by_contra early
      exact never _ (by omega) shown
  · rw [instantOf_of_not_shows shows]
    constructor
    · intro late
      exact ⟨fun s _ same => shows ⟨s, same⟩, Or.inr (by omega)⟩
    · rintro ⟨-, shown | bound⟩
      · exact absurd shown shows
      · omega

end IngestWatch.Calendar.Zone
