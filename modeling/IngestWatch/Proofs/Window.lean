import IngestWatch.Proofs.Calendar.Readings
import IngestWatch.Window

/-!
The window that ends today and the present moment. The window begins and ends at the
first occurrences of today's first and last reading, so it holds the present moment
unless the clocks come to today's midnight only later, or have been past the day's end
already and were set back over it; a bound that the clocks skip is placed by the offset
of the instant it names in UTC.
-/

namespace IngestWatch.Window

open Calendar

/-- Where the present moment lies with respect to the window that ends today, for every
zone. `first` and `last` are the first and the last reading of the present day. -/
theorem endingToday_now_iff (zone : Zone) (now : Int) (lookbackDays : Nat)
    (ingestType : String) :
    let w := endingToday zone now lookbackDays ingestType
    let first := dayOf (zone.wallAt now) * millisPerDay
    let last := first + lastMillis
    let reach := now + lookbackDays * millisPerDay
    (w.start ≤ now ↔
      (∃ t ≤ reach, zone.wallAt t = first) ∨
        (¬ zone.Shows first ∧ first ≤ reach + zone.offsetAt first * 1000)) ∧
      (now < w.stop ↔
        (∀ t < now, zone.wallAt t ≠ last) ∧
          (zone.Shows last ∨ now + zone.offsetAt last * 1000 ≤ last)) := by
  intro w first last reach
  have start : w.start = zone.instantOf first - lookbackDays * millisPerDay := rfl
  have stop : w.stop = zone.instantOf last + 1 := rfl
  constructor
  · rw [← zone.instantOf_le_iff first reach, start, sub_le_iff_le_add]
  · rw [← zone.le_instantOf_iff last now, stop, Int.lt_add_one_iff]

/-- Clocks set back from midnight to eleven: the window ends with the first of the two
hours before midnight, and half an hour into the second one it no longer holds the
present moment. -/
theorem endingToday_without_now :
    let zone : Zone := ⟨-10800, [(1680404400, -14400)]⟩
    let now : Int := 1680406200000
    let w := endingToday zone now 0 "bulk"
    zone.changes.Pairwise (·.1 < ·.1) ∧ w.start ≤ now ∧ ¬ now < w.stop := by
  decide

end IngestWatch.Window
