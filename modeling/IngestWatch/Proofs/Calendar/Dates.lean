import IngestWatch.Calendar.Zone
import Mathlib.Tactic

/-!
Dates in the order of the calendar. The days of an era fall into centuries, cycles of four
years, years and days, and that gives the year of a day and its number in the year. A later day
has a later date, so a date names one day only.
-/

namespace IngestWatch.Calendar

/-! ## The years of an era -/

/-- A day of an era by its century, the cycle of four years in that, the year in the cycle, and
the day in the year. Only the last year of a cycle has the last day, and of the last cycles of
the centuries only the last one. -/
structure Parts (n century cycle year day : Nat) : Prop where
  whole : n = 36524 * century + (1461 * cycle + (365 * year + day))
  century_le : century ≤ 3
  cycle_le : cycle ≤ 24
  year_le : year ≤ 3
  day_le : day ≤ 365
  leap : day = 365 → year = 3 ∧ (cycle < 24 ∨ century = 3)

theorem exists_parts {n : Nat} (inside : n < 146097) :
    ∃ century cycle year day, Parts n century cycle year day := by
  obtain ⟨c, r, century, split, rest⟩ :
      ∃ c r, c ≤ 3 ∧ n = 36524 * c + r ∧ (r < 36524 ∨ c = 3 ∧ r = 36524) := by
    by_cases last : n = 146096
    · exact ⟨3, 36524, by omega, by omega, by omega⟩
    · exact ⟨n / 36524, n % 36524, by omega, by omega, by omega⟩
  obtain ⟨q, s, rfl, within⟩ : ∃ q s, r = 1461 * q + s ∧ s < 1461 :=
    ⟨r / 1461, r % 1461, by omega, by omega⟩
  obtain ⟨y, d, year, rfl, day⟩ : ∃ y d, y ≤ 3 ∧ s = 365 * y + d ∧ (d < 365 ∨ y = 3 ∧ d = 365) := by
    by_cases last : s = 1460
    · exact ⟨3, 365, by omega, by omega, by omega⟩
    · exact ⟨s / 365, s % 365, by omega, by omega, by omega⟩
  exact ⟨c, q, y, d, split, century, by omega, year, by omega, by omega⟩

/-- The year of an era in which a day of it lies. -/
def yearOfEra (dayOfEra : Nat) : Nat :=
  (dayOfEra - dayOfEra / 1460 + dayOfEra / 36524 - dayOfEra / 146096) / 365

/-- The days of an era before one of its years. -/
def daysBefore (year : Nat) : Nat :=
  365 * year + year / 4 - year / 100

theorem daysBefore_add_le {year later : Nat} (before : year < later) :
    daysBefore year + 365 ≤ daysBefore later := by
  have hundreds (y : Nat) : y / 100 = y / 4 / 25 := (Nat.div_div_eq_div_mul y 4 25).symm
  have cycles : year / 4 ≤ later / 4 := Nat.div_le_div_right before.le
  unfold daysBefore
  rw [hundreds, hundreds]
  omega

theorem mul_add_div_of_lt {k a m : Nat} (small : m < k) : (k * a + m) / k = a := by
  rw [Nat.mul_add_div (Nat.zero_lt_of_lt small), Nat.div_eq_of_lt small, Nat.add_zero]

theorem Parts.yearOfEra {n c q y d : Nat} (parts : Parts n c q y d) :
    yearOfEra n = 100 * c + 4 * q + y := by
  obtain ⟨whole, century, cycle, year, day, leap⟩ := parts
  have centuries : n / 36524 - n / 146096 = c ∧ n / 146096 ≤ n / 36524 := by
    by_cases last : n = 146096
    · obtain rfl : c = 3 := by omega
      rw [last]
      decide
    · have small : 1461 * q + (365 * y + d) < 36524 := by omega
      rw [whole, mul_add_div_of_lt small, Nat.div_eq_of_lt (show _ < 146096 by omega)]
      omega
  -- Cycles are taken to have 1460 days, so one more may seem to be over at the end of a year.
  have cycles : n / 1460 = 25 * c + q + (24 * c + q + 365 * y + d) / 1460 := by
    rw [show n = 1460 * (25 * c + q) + (24 * c + q + 365 * y + d) by omega,
      Nat.mul_add_div (by decide)]
  have carry : (24 * c + q + 365 * y + d) / 1460 ≤ 1 ∧
      (d = 365 → (24 * c + q + 365 * y + d) / 1460 = 1) ∧
      (d = 0 → (24 * c + q + 365 * y + d) / 1460 = 0) :=
    ⟨by omega, by omega, by omega⟩
  generalize (24 * c + q + 365 * y + d) / 1460 = k at cycles carry
  have days : n - n / 1460 + n / 36524 - n / 146096 = 365 * (100 * c + 4 * q + y) + (d - k) := by
    generalize n / 36524 = u at centuries
    generalize n / 146096 = v at centuries
    generalize n / 1460 = w at cycles
    omega
  rw [Calendar.yearOfEra, days, mul_add_div_of_lt (by omega)]

theorem Parts.daysBefore {n c q y d : Nat} (parts : Parts n c q y d) :
    daysBefore (Calendar.yearOfEra n) + d = n := by
  have year := parts.yearOfEra
  obtain ⟨whole, century, cycle, small, -, -⟩ := parts
  have fours : (100 * c + 4 * q + y) / 4 = 25 * c + q := by omega
  have hundreds : (100 * c + 4 * q + y) / 100 = c := by omega
  rw [Calendar.daysBefore, year, fours, hundreds]
  omega

/-- A day of an era lies in its year: no earlier than where that begins, and no more than 365
days later. -/
theorem daysBefore_yearOfEra {n : Nat} (inside : n < 146097) :
    yearOfEra n ≤ 399 ∧ daysBefore (yearOfEra n) ≤ n ∧ n ≤ daysBefore (yearOfEra n) + 365 := by
  obtain ⟨c, q, y, d, parts⟩ := exists_parts inside
  have year := parts.yearOfEra
  have before := parts.daysBefore
  have bounds := And.intro parts.century_le (And.intro parts.cycle_le parts.year_le)
  have day := parts.day_le
  omega

/-! ## Dates -/

namespace Date

/-- The date of a day of a year that begins in March. -/
def ofMarchYear (year : Int) (dayOfYear : Nat) : Date :=
  let marchMonth := (5 * dayOfYear + 2) / 153
  let day := dayOfYear - (153 * marchMonth + 2) / 5 + 1
  let month := if marchMonth < 10 then marchMonth + 3 else marchMonth - 9
  ⟨if month ≤ 2 then year + 1 else year, month, day⟩

/-- Every day is one of the first 366 of a year that begins in March. -/
theorem exists_ofMarchYear (days : Int) : ∃ (era : Int) (year day : Nat),
    year ≤ 399 ∧ day ≤ 365 ∧ days + 719468 = 146097 * era + daysBefore year + day ∧
      ofDay days = ofMarchYear (year + era * 400) day := by
  have split := Int.mul_fdiv_add_fmod (days + 719468) 146097
  have positive := Int.fmod_nonneg_of_pos (days + 719468) (show (0 : Int) < 146097 by decide)
  have small := Int.fmod_lt_of_pos (days + 719468) (show (0 : Int) < 146097 by decide)
  have inside : ((days + 719468).fmod 146097).toNat < 146097 := by omega
  obtain ⟨year, after, within⟩ := daysBefore_yearOfEra inside
  refine ⟨(days + 719468).fdiv 146097, yearOfEra ((days + 719468).fmod 146097).toNat,
    ((days + 719468).fmod 146097).toNat -
      daysBefore (yearOfEra ((days + 719468).fmod 146097).toNat), year, by omega, by omega, rfl⟩

/-- Dates in the order of the calendar. -/
def Before (a b : Date) : Prop :=
  a.year < b.year ∨ a.year = b.year ∧ (a.month < b.month ∨ a.month = b.month ∧ a.day < b.day)

instance : LE Date where
  le a b := a = b ∨ a.Before b

theorem ofMarchYear_before {year year' : Int} {day day' : Nat} (first : day ≤ 365)
    (second : day' ≤ 365) (earlier : year < year' ∨ year = year' ∧ day < day') :
    (ofMarchYear year day).Before (ofMarchYear year' day') := by
  have month : (5 * day + 2) / 153 ≤ 11 := by omega
  have month' : (5 * day' + 2) / 153 ≤ 11 := by omega
  have lower : (153 * ((5 * day + 2) / 153) + 2) / 5 ≤ day := by omega
  have lower' : (153 * ((5 * day' + 2) / 153) + 2) / 5 ≤ day' := by omega
  have order : year = year' → (5 * day + 2) / 153 ≤ (5 * day' + 2) / 153 := by omega
  unfold Before ofMarchYear
  dsimp only
  generalize (5 * day + 2) / 153 = m at *
  generalize (5 * day' + 2) / 153 = m' at *
  split <;> split <;> split <;> split <;> omega

theorem ofDay_before {a b : Int} (earlier : a < b) : (ofDay a).Before (ofDay b) := by
  obtain ⟨era, year, day, within, small, place, date⟩ := exists_ofMarchYear a
  obtain ⟨era', year', day', within', small', place', date'⟩ := exists_ofMarchYear b
  rw [date, date']
  refine ofMarchYear_before small small' ?_
  have total : daysBefore year' ≤ 145731 := by
    unfold daysBefore
    omega
  rcases lt_trichotomy era era' with before | rfl | after
  · omega
  · rcases lt_trichotomy year year' with before | rfl | after
    · omega
    · omega
    · have behind := daysBefore_add_le after
      omega
  · omega

theorem before_irrefl (a : Date) : ¬ a.Before a := by
  unfold Before
  omega

theorem Before.asymm {a b : Date} (before : a.Before b) : ¬ b.Before a := by
  unfold Before at *
  omega

/-- A later day has a later date. -/
theorem ofDay_le_iff {a b : Int} : ofDay a ≤ ofDay b ↔ a ≤ b := by
  constructor
  · rintro (same | before)
    · by_contra later
      exact before_irrefl _ (same ▸ ofDay_before (Int.lt_of_not_ge later))
    · by_contra later
      exact before.asymm (ofDay_before (Int.lt_of_not_ge later))
  · intro le
    rcases le.eq_or_lt with rfl | earlier
    · exact Or.inl rfl
    · exact Or.inr (ofDay_before earlier)

theorem ofDay_injective : Function.Injective ofDay := by
  intro a b same
  exact le_antisymm (ofDay_le_iff.mp (Or.inl same)) (ofDay_le_iff.mp (Or.inl same.symm))

end Date

/-! ## What the clocks of a zone show -/

theorem dayOf_eq (wallMillis : Int) : dayOf wallMillis = wallMillis / 86400000 :=
  Int.fdiv_eq_ediv_of_nonneg _ (by decide)

/-- The date that a zone's clocks show is that of the day of their reading. -/
theorem Zone.date_momentAt (z : Zone) (instant : Int) :
    (z.momentAt instant).date = .ofDay (dayOf (z.wallAt instant)) := by
  have seconds : z.wallAt instant / 86400000 =
      (instant / 1000 + z.offsetAt instant) / 86400 := by
    rw [wallAt, show (86400000 : Int) = 1000 * 86400 from rfl,
      ← Int.ediv_ediv_of_nonneg (by decide), Int.add_mul_ediv_right _ _ (by decide)]
  rw [dayOf_eq, seconds, momentAt, Moment.ofMillis, Moment.date,
    Int.fdiv_eq_ediv_of_nonneg _ (by decide), Int.fdiv_eq_ediv_of_nonneg _ (by decide)]

end IngestWatch.Calendar
