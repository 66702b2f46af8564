import IngestWatch.Proofs.Calendar.Dates
import IngestWatch.Proofs.Calendar.Readings
import IngestWatch.Window

/-!
The bounds of the window that ends today, in a zone whose clocks are set now and then. Each bound
is the first instant at which the clocks show it, however often they do. One that they skip is
placed by the offset that the zone has at the instant of the same name in UTC, and that tells
where a day begins whose midnight is skipped: at its first instant if the zone is behind UTC, and
before it otherwise.
-/

namespace IngestWatch

open Calendar

/-! ## Date and time of day -/

namespace Calendar

/-- The time of day that a clock shows, in milliseconds since midnight. -/
def Moment.timeOfDay (m : Moment) : Int :=
  (m.seconds + m.offset).fmod 86400 * 1000 + (m.nanos / 1000000 : Nat)

namespace Zone

/-- The instants at which the clocks of a zone show a date and a time of day. -/
def instantsOf (z : Zone) (date : Date) (time : Int) : Set Int :=
  {t | (z.momentAt t).date = date ∧ (z.momentAt t).timeOfDay = time}

/-- A reading is its day and its time of day. -/
theorem wallAt_eq_day_add_time (z : Zone) (t : Int) :
    z.wallAt t = dayOf (z.wallAt t) * millisPerDay + (z.momentAt t).timeOfDay := by
  have seconds : z.wallAt t = (t / 1000 + z.offsetAt t) * 1000 + t % 1000 := by
    unfold wallAt
    omega
  have millis : (((t.fmod 1000).toNat * 1000000 / 1000000 : Nat) : Int) = t % 1000 := by
    rw [Nat.mul_div_cancel _ (by decide), Int.fmod_eq_emod_of_nonneg _ (by decide)]
    omega
  rw [momentAt, Moment.ofMillis, Moment.timeOfDay, millis, dayOf_eq, seconds,
    Int.fdiv_eq_ediv_of_nonneg _ (by decide), Int.fmod_eq_emod_of_nonneg _ (by decide),
    millisPerDay]
  dsimp only
  omega

theorem timeOfDay_bounds (z : Zone) (t : Int) :
    0 ≤ (z.momentAt t).timeOfDay ∧ (z.momentAt t).timeOfDay < millisPerDay := by
  have split := z.wallAt_eq_day_add_time t
  rw [dayOf_eq, millisPerDay] at split
  rw [millisPerDay]
  omega

theorem mem_instantsOf_iff (z : Zone) (day : Int) {time : Int} (early : 0 ≤ time)
    (late : time < millisPerDay) (t : Int) :
    t ∈ z.instantsOf (.ofDay day) time ↔ z.wallAt t = day * millisPerDay + time := by
  have split := z.wallAt_eq_day_add_time t
  obtain ⟨low, high⟩ := z.timeOfDay_bounds t
  rw [instantsOf, Set.mem_ofPred_eq, date_momentAt, Date.ofDay_injective.eq_iff]
  rw [millisPerDay] at *
  omega

/-- Which instant is taken for a date and a time of day: the first one at which the clocks show
them, or, if they never do, the instant of this name in UTC less the offset that the zone has
then. -/
structure Resolves (z : Zone) (date : Date) (time t : Int) : Prop where
  least : (z.instantsOf date time).Nonempty → IsLeast (z.instantsOf date time) t
  skipped : z.instantsOf date time = ∅ →
    ∃ u, (fixed 0).instantsOf date time = {u} ∧ t = u - z.offsetAt u * 1000

theorem resolves_instantOf (z : Zone) (day : Int) {time : Int} (early : 0 ≤ time)
    (late : time < millisPerDay) :
    z.Resolves (.ofDay day) time (z.instantOf (day * millisPerDay + time)) := by
  have shown : z.instantsOf (.ofDay day) time = {t | z.wallAt t = day * millisPerDay + time} :=
    Set.ext (z.mem_instantsOf_iff day early late)
  constructor
  · rw [shown]
    exact instantOf_isLeast
  · rw [shown]
    intro never
    refine ⟨day * millisPerDay + time, ?_, instantOf_of_not_shows fun ⟨t, same⟩ => ?_⟩
    · ext u
      have utc : (fixed 0).wallAt u = u := Int.add_zero u
      rw [mem_instantsOf_iff _ day early late, utc, Set.mem_singleton_iff]
    · exact (never ▸ same : t ∈ (∅ : Set Int))

end Zone

end Calendar

namespace Window

/-- Both bounds of the window that ends today, for every zone, every present moment and every
number of days: less the days before today, the window starts at the instant that is taken for
today's midnight, and it ends one millisecond after the instant that is taken for today's last
millisecond. -/
theorem endingToday_resolves (zone : Zone) (now : Int) (lookbackDays : UInt32)
    (ingestType : String) :
    let w := endingToday zone now lookbackDays.toNat ingestType
    let today := (zone.momentAt now).date
    zone.Resolves today 0 (w.start + lookbackDays.toNat * 86400000) ∧
      zone.Resolves today 86399999 (w.stop - 1) := by
  intro w today
  have day : today = .ofDay (dayOf (zone.wallAt now)) := zone.date_momentAt now
  have start : w.start + lookbackDays.toNat * 86400000 =
      zone.instantOf (dayOf (zone.wallAt now) * millisPerDay + 0) := by
    rw [Int.add_zero]
    exact sub_add_cancel _ _
  have stop : w.stop - 1 = zone.instantOf (dayOf (zone.wallAt now) * millisPerDay + lastMillis) :=
    add_sub_cancel_right _ _
  rw [day, start, stop]
  exact ⟨zone.resolves_instantOf _ (by decide) (by decide),
    zone.resolves_instantOf _ (by decide) (by decide)⟩

/-- Clocks that are set back twice in one night show midnight three times: the first one counts. -/
example : let zone : Zone := ⟨7200, [(-5400, 3600), (-1800, 0)]⟩
    zone.offsetsOf 0 = [7200, 3600, 0] ∧ (endingToday zone 0 0 "bulk").start = -7200000 := by
  decide

end Window

/-! ## A skipped midnight -/

namespace Calendar.Zone

/-- A zone whose clocks are set once, at an instant in seconds. -/
def setOnce (before switch after : Int) : Zone := ⟨before, [(switch, after)]⟩

section
variable {before switch after day : Int} (forward : before < after)
  (short : after - before < 86400) (midnight : switch + before = 86400 * day)

theorem wallAt_setOnce (before switch after t : Int) :
    (setOnce before switch after).wallAt t =
      t + (if switch * 1000 ≤ t then after else before) * 1000 := rfl

include forward midnight

/-- The clocks go from the end of one day into the next one, without its midnight. -/
theorem not_shows_midnight : ¬ (setOnce before switch after).Shows (day * millisPerDay) := by
  rintro ⟨t, shown⟩
  rw [wallAt_setOnce, millisPerDay] at shown
  split at shown <;> omega

include short

/-- The day whose midnight is skipped begins where the clocks are set. -/
theorem day_le_dayOf_iff (t : Int) :
    day ≤ dayOf ((setOnce before switch after).wallAt t) ↔ switch * 1000 ≤ t := by
  rw [wallAt_setOnce, dayOf_eq]
  split <;> omega

theorem isLeast_day :
    IsLeast {t | ((setOnce before switch after).momentAt t).date = .ofDay day}
      (switch * 1000) := by
  constructor
  · rw [Set.mem_ofPred_eq, date_momentAt, wallAt_setOnce, if_pos le_rfl, dayOf_eq]
    exact congrArg Date.ofDay (by omega)
  · intro t shown
    rw [Set.mem_ofPred_eq, date_momentAt, Date.ofDay_injective.eq_iff] at shown
    exact (day_le_dayOf_iff forward short midnight t).mp shown.ge

end

/-- Midnight as an instant of UTC comes before the clocks are set if the zone is behind UTC until
then, and not before they are set otherwise. -/
theorem instantOf_skipped_midnight {before switch after day : Int} (forward : before < after)
    (midnight : switch + before = 86400 * day) :
    (setOnce before switch after).instantOf (day * millisPerDay) =
      if before < 0 then switch * 1000 else (switch - (after - before)) * 1000 := by
  have offset : (setOnce before switch after).offsetAt (day * millisPerDay) =
      if switch * 1000 ≤ day * millisPerDay then after else before := rfl
  rw [instantOf_of_not_shows (not_shows_midnight forward midnight), offset, millisPerDay]
  split <;> split <;> omega

end Calendar.Zone

namespace Window

/-- Where clocks are set forward over a midnight, by less than a day, its day begins when they are
set. The window of this day alone begins there too if and only if the zone is behind UTC until
then; if it is not, the window begins so much earlier as the clocks are set forward, and holds
instants of the day before. -/
theorem endingToday_skipped_midnight {before switch after now : Int} (ingestType : String)
    (forward : before < after) (short : after - before < 86400)
    (midnight : (switch + before) % 86400 = 0)
    (today : ((Zone.setOnce before switch after).momentAt now).date =
      .ofDay ((switch + before) / 86400)) :
    let zone := Zone.setOnce before switch after
    let w := endingToday zone now 0 ingestType
    let date (t : Int) := (zone.momentAt t).date
    IsLeast {t | date t = date now} (switch * 1000) ∧
      w.start = (if before < 0 then switch * 1000 else (switch - (after - before)) * 1000) ∧
      ((∀ t, w.start ≤ t → date now ≤ date t) ↔ before < 0) := by
  intro zone w date
  obtain ⟨day, reading⟩ : ∃ day, switch + before = 86400 * day :=
    ⟨(switch + before) / 86400, by omega⟩
  have shown : date now = .ofDay day := by
    rw [show date now = _ from today, reading]
    exact congrArg Date.ofDay (by omega)
  have later (t : Int) : date now ≤ date t ↔ switch * 1000 ≤ t := by
    rw [shown, show date t = _ from zone.date_momentAt t, Date.ofDay_le_iff]
    exact Zone.day_le_dayOf_iff forward short reading t
  have start : w.start =
      if before < 0 then switch * 1000 else (switch - (after - before)) * 1000 := by
    have same : dayOf (zone.wallAt now) = day :=
      Date.ofDay_injective ((zone.date_momentAt now).symm.trans shown)
    have bound : w.start =
        zone.instantOf (dayOf (zone.wallAt now) * millisPerDay) - 0 * millisPerDay := rfl
    rw [bound, same, Int.zero_mul, Int.sub_zero]
    exact Zone.instantOf_skipped_midnight forward reading
  refine ⟨?_, start, ?_⟩
  · rw [shown]
    exact Zone.isLeast_day forward short reading
  · rw [start]
    constructor
    · intro whole
      have first := (later _).mp (whole _ le_rfl)
      split at first <;> omega
    · intro behind t inside
      rw [if_pos behind] at inside
      exact (later t).mpr inside

/-- Clocks in the west set forward from midnight to one: the day begins when they are set. -/
theorem endingToday_skipped_midnight_west :
    let zone := Zone.setOnce (-14400) 1662868800 (-10800)
    let now : Int := 1662908400000
    (zone.momentAt now).date = ⟨2022, 9, 11⟩ ∧
      (endingToday zone now 0 "bulk").start = 1662868800000 := by
  intro zone now
  have today : (zone.momentAt now).date = .ofDay ((1662868800 + -14400) / 86400) := by decide
  obtain ⟨-, start, -⟩ :=
    endingToday_skipped_midnight "bulk" (by decide) (by decide) (by decide) today
  exact ⟨today, start⟩

/-- Clocks in the east set forward from midnight to one: the window begins one hour before the
day does. -/
theorem endingToday_skipped_midnight_east :
    let before : Int := 7200
    let after : Int := 10800
    let switch : Int := 1648332000
    let now : Int := 1648371600000
    let zone := Zone.setOnce before switch after
    (before < after ∧ after - before < 86400 ∧ (switch + before) % 86400 = 0 ∧
        (zone.momentAt now).date = .ofDay ((switch + before) / 86400)) ∧
      (endingToday zone now 0 "bulk").start ≠ switch * 1000 := by
  decide

end Window

end IngestWatch
