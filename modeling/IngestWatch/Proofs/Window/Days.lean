import IngestWatch.Proofs.Calendar.Dates
import IngestWatch.Proofs.Calendar.Readings
import IngestWatch.Window

/-!
The window that ends today in a zone whose clocks are never set. Every reading occurs there
exactly once, so the window holds the instants of whole days: those whose date is not before
the day so many days ago and not after today.
-/

namespace IngestWatch

open Calendar

theorem Calendar.Zone.instantOf_fixed (offset wall : Int) :
    (fixed offset).instantOf wall = wall - offset * 1000 := by
  have shown : (fixed offset).Shows wall := by
    refine ⟨wall - offset * 1000, ?_⟩
    change wall - offset * 1000 + offset * 1000 = wall
    omega
  exact ((fixed offset).wallAt_eq_iff _ _).mp (instantOf_isLeast shown).1

namespace Window

/-- The bounds of the window that ends today, by the clocks of a fixed zone. -/
theorem endingToday_fixed (offset now : Int) (lookbackDays : Nat) (ingestType : String) :
    let today := dayOf ((Zone.fixed offset).wallAt now)
    endingToday (.fixed offset) now lookbackDays ingestType =
      ⟨(today - lookbackDays) * millisPerDay - offset * 1000,
        (today + 1) * millisPerDay - offset * 1000, ingestType⟩ := by
  intro today
  have start : (Zone.fixed offset).instantOf (today * millisPerDay) = _ :=
    Zone.instantOf_fixed offset _
  have stop : (Zone.fixed offset).instantOf (today * millisPerDay + lastMillis) = _ :=
    Zone.instantOf_fixed offset _
  rw [endingToday, start, stop, Window.mk.injEq, lastMillis]
  refine ⟨?_, ?_, rfl⟩
  · rw [Int.sub_mul]
    omega
  · rw [Int.add_mul]
    omega

/-- Where an instant lies in the window is told by the day that the clocks show at it. -/
theorem mem_endingToday_fixed_iff (offset now t : Int) (lookbackDays : Nat)
    (ingestType : String) :
    let zone := Zone.fixed offset
    let w := endingToday zone now lookbackDays ingestType
    (w.start ≤ t ∧ t < w.stop ↔
      dayOf (zone.wallAt now) - lookbackDays ≤ dayOf (zone.wallAt t) ∧
        dayOf (zone.wallAt t) ≤ dayOf (zone.wallAt now)) := by
  intro zone w
  have bounds : w = _ := endingToday_fixed offset now lookbackDays ingestType
  have reading : zone.wallAt t = t + offset * 1000 := rfl
  rw [bounds, reading, dayOf_eq (t + _), millisPerDay]
  generalize dayOf (zone.wallAt now) = today
  dsimp only
  omega

/-- The window that ends today in a zone with a fixed offset, for every offset and every number
of days. It holds exactly the instants whose local date lies between that of so many days ago
and today's; so it holds the present moment, it is as long as its days, and it is the same at
all instants of one local date. -/
theorem endingToday_whole_days (offset now : Int) (lookbackDays : UInt32) (ingestType : String) :
    let zone := Zone.fixed offset
    let w := endingToday zone now lookbackDays.toNat ingestType
    let date (t : Int) := (zone.momentAt t).date
    let today := dayOf (zone.wallAt now)
    date now = .ofDay today ∧
      (∀ t, w.start ≤ t ∧ t < w.stop ↔
        Date.ofDay (today - lookbackDays.toNat) ≤ date t ∧ date t ≤ date now) ∧
      (w.start ≤ now ∧ now < w.stop) ∧
      w.span = (lookbackDays.toNat + 1) * 86400000 ∧
      ∀ now', date now' = date now →
        endingToday zone now' lookbackDays.toNat ingestType = w := by
  intro zone w date today
  have shown (t : Int) : date t = .ofDay (dayOf (zone.wallAt t)) := zone.date_momentAt t
  have inside (t : Int) : w.start ≤ t ∧ t < w.stop ↔ _ :=
    mem_endingToday_fixed_iff offset now t lookbackDays.toNat ingestType
  have bounds (now : Int) := endingToday_fixed offset now lookbackDays.toNat ingestType
  refine ⟨shown now, fun t => ?_, (inside now).mpr ⟨by omega, le_rfl⟩, ?_, fun now' same => ?_⟩
  · rw [shown, shown, Date.ofDay_le_iff, Date.ofDay_le_iff]
    exact inside t
  · have few := lookbackDays.toNat_lt
    have length : w.stop - w.start = (lookbackDays.toNat + 1) * 86400000 := by
      rw [show w = _ from bounds now, millisPerDay]
      dsimp only
      ring
    rw [span, length, saturate]
    omega
  · rw [shown, shown] at same
    rw [show w = _ from bounds now, bounds now', Date.ofDay_injective same]

end Window

end IngestWatch
