import IngestWatch.Proofs.Calendar.Dates
import IngestWatch.Proofs.Calendar.Readings
import IngestWatch.Window

/-!
The window that ends today, computed with words of 64 bits. Each operation on words tells whether
its result fits; with the dates of some half a million years, offsets of less than a day and a
count of days in 32 bits, all of them do, so the words are the whole numbers of the window itself.
-/

namespace IngestWatch

open Calendar

/-! ## Dates within reach -/

namespace Calendar

/-- A calendar with years in so many bits has these dates and no others. -/
def Date.WithinReach (d : Date) : Prop :=
  -262143 ≤ d.year ∧ d.year ≤ 262142

instance (d : Date) : Decidable d.WithinReach :=
  inferInstanceAs (Decidable (_ ∧ _))

/-- Clocks are never a whole day off. -/
def Zone.WithinADay (z : Zone) : Prop :=
  ∀ e ∈ z.offsets, -86400 < e ∧ e < 86400

instance (z : Zone) : Decidable z.WithinADay :=
  inferInstanceAs (Decidable (∀ _ ∈ _, _))

theorem Date.day_bounds {day : Int} (reach : (ofDay day).WithinReach) :
    -100000000 ≤ day ∧ day ≤ 100000000 := by
  obtain ⟨era, year, dayOfYear, within, small, place, date⟩ := exists_ofMarchYear day
  have total : daysBefore year ≤ 145731 := by
    unfold daysBefore
    omega
  have marchYear : (ofDay day).year = year + era * 400 ∨
      (ofDay day).year = year + era * 400 + 1 := by
    rw [date, ofMarchYear]
    exact (ite_eq_or_eq _ _ _).symm
  unfold WithinReach at reach
  omega

end Calendar

namespace Window

/-- The bounds of a window in words, and the kind of ingest. -/
structure Words where
  start : Int64
  stop : Int64
  ingestType : String

namespace Words

/-- The window that words stand for. -/
def exact (w : Words) : Window :=
  ⟨w.start.toInt, w.stop.toInt, w.ingestType⟩

/-! ## Operations that tell whether their result fits -/

def word? (n : Int) : Option Int64 :=
  if -0x8000000000000000 ≤ n ∧ n < 0x8000000000000000 then some (.ofInt n) else none

def add? (a b : Int64) : Option Int64 :=
  if a.toBitVec.saddOverflow b.toBitVec then none else some (a + b)

def sub? (a b : Int64) : Option Int64 :=
  if a.toBitVec.ssubOverflow b.toBitVec then none else some (a - b)

def mul? (a b : Int64) : Option Int64 :=
  if a.toBitVec.smulOverflow b.toBitVec then none else some (a * b)

/-- A difference that does not fit is the least word or the greatest. -/
def saturatingSub (a b : Int64) : Int64 :=
  if a.toBitVec.ssubOverflow b.toBitVec then
    if b < 0 then .maxValue else .minValue
  else a - b

/-- Nothing on the way to the result overflows, and the result is like this. -/
def Gives {α : Type} (result : Option α) (like : α → Prop) : Prop :=
  ∃ a, result = some a ∧ like a

theorem Gives.bind {α β : Type} {first : Option α} {next : α → Option β} {like : α → Prop}
    {like' : β → Prop} (gives : Gives first like) (onwards : ∀ a, like a → Gives (next a) like') :
    Gives (first >>= next) like' := by
  obtain ⟨a, rfl, this⟩ := gives
  exact onwards a this

theorem gives_word {n : Int} (low : -0x8000000000000000 ≤ n) (high : n < 0x8000000000000000) :
    Gives (word? n) (·.toInt = n) :=
  ⟨.ofInt n, if_pos ⟨low, high⟩, Int64.toInt_ofInt_of_le low high⟩

section
variable {a b : Int64} {m n : Int} (left : a.toInt = m) (right : b.toInt = n)
include left right

theorem gives_add (low : -0x8000000000000000 ≤ m + n) (high : m + n < 0x8000000000000000) :
    Gives (add? a b) (·.toInt = m + n) := by
  have fits : ¬ a.toBitVec.saddOverflow b.toBitVec := by
    simp only [BitVec.saddOverflow, Int64.toInt_toBitVec, Bool.or_eq_true, decide_eq_true_eq]
    omega
  subst left right
  exact ⟨a + b, if_neg fits, BitVec.toInt_add_of_not_saddOverflow fits⟩

theorem gives_mul (low : -0x8000000000000000 ≤ m * n) (high : m * n < 0x8000000000000000) :
    Gives (mul? a b) (·.toInt = m * n) := by
  subst left right
  have fits : ¬ a.toBitVec.smulOverflow b.toBitVec := by
    simp only [BitVec.smulOverflow, Int64.toInt_toBitVec, Bool.or_eq_true, decide_eq_true_eq]
    omega
  exact ⟨a * b, if_neg fits, BitVec.toInt_mul_of_not_smulOverflow fits⟩

omit left right in
theorem ssubOverflow_iff : a.toBitVec.ssubOverflow b.toBitVec ↔
    0x8000000000000000 ≤ a.toInt - b.toInt ∨ a.toInt - b.toInt < -0x8000000000000000 := by
  simp only [BitVec.ssubOverflow, Int64.toInt_toBitVec, Bool.or_eq_true, decide_eq_true_eq]
  omega

theorem gives_sub (low : -0x8000000000000000 ≤ m - n) (high : m - n < 0x8000000000000000) :
    Gives (sub? a b) (·.toInt = m - n) := by
  subst left right
  have fits : ¬ a.toBitVec.ssubOverflow b.toBitVec := by
    rw [ssubOverflow_iff]
    omega
  exact ⟨a - b, if_neg fits, BitVec.toInt_sub_of_not_ssubOverflow fits⟩

omit left right in
/-- A saturating difference is the number next to the difference that fits. -/
theorem toInt_saturatingSub : (saturatingSub a b).toInt = saturate (a.toInt - b.toInt) := by
  have low := Int64.le_toInt a
  have high := Int64.toInt_lt a
  have low' := Int64.le_toInt b
  have high' := Int64.toInt_lt b
  rw [saturatingSub, saturate]
  split
  case isTrue beyond =>
    rw [ssubOverflow_iff] at beyond
    split
    case isTrue negative =>
      have below : b.toInt < 0 := Int64.lt_iff_toInt_lt.mp negative
      rw [Int64.toInt_maxValue]
      omega
    case isFalse positive =>
      have above : ¬ b.toInt < 0 := fun below => positive (Int64.lt_iff_toInt_lt.mpr below)
      rw [Int64.toInt_minValue]
      omega
  case isFalse fits =>
    have difference := BitVec.toInt_sub_of_not_ssubOverflow fits
    rw [ssubOverflow_iff] at fits
    change (a.toBitVec - b.toBitVec).toInt = _
    rw [difference]
    change a.toInt - b.toInt = _
    omega

end

/-! ## The window in words -/

/-- The milliseconds of an instant that is kept in seconds and the milliseconds after them. -/
def millis? (instant : Int) : Option Int64 := do
  let seconds ← mul? (← word? (instant.fdiv 1000)) 1000
  add? seconds (← word? (instant.fmod 1000))

/-- The instant of a reading: the first one at which the clocks show it, or, if they never do, the
one at the offset of the instant it names in UTC. -/
def instantOf? (z : Zone) (wall : Int) : Option Int64 :=
  match z.earliest? wall with
  | some instant => millis? instant
  | none => do
    let utc ← millis? wall
    sub? utc (← mul? (← word? (z.offsetAt wall)) 1000)

/-- All of the present day of a zone and a number of days before it. -/
def endingToday? (z : Zone) (now : Int) (lookbackDays : UInt32) (ingestType : String) :
    Option Words := do
  let midnight := dayOf (z.wallAt now) * millisPerDay
  let first ← instantOf? z midnight
  let start ← sub? first (← mul? (.ofNat lookbackDays.toNat) 86400000)
  let last ← instantOf? z (midnight + lastMillis)
  let stop ← add? last 1
  return ⟨start, stop, ingestType⟩

/-- The length in milliseconds. -/
def span (w : Words) : Int64 :=
  saturatingSub w.stop w.start

theorem gives_millis {instant : Int} (low : -10000000000000000 ≤ instant)
    (high : instant ≤ 10000000000000000) : Gives (millis? instant) (·.toInt = instant) := by
  rw [millis?, Int.fdiv_eq_ediv_of_nonneg _ (by decide), Int.fmod_eq_emod_of_nonneg _ (by decide)]
  have split := Int.mul_ediv_add_emod instant 1000
  rw [Int.mul_comm] at split
  refine (gives_word (by omega) (by omega)).bind fun whole seconds => ?_
  refine (gives_mul seconds (n := 1000) rfl (by omega) (by omega)).bind fun thousands product => ?_
  refine (gives_word (by omega) (by omega)).bind fun part rest => ?_
  have sum := gives_add product rest (by omega) (by omega)
  rwa [split] at sum

/-- The instant of a reading fits, and lies less than a day off the reading. -/
theorem gives_instantOf {z : Zone} (narrow : z.WithinADay) (wall : Int)
    (low : -9000000000000000 ≤ wall) (high : wall ≤ 9000000000000000) :
    Gives (instantOf? z wall) (·.toInt = z.instantOf wall) ∧
      wall - 86400000 < z.instantOf wall ∧ z.instantOf wall < wall + 86400000 := by
  rw [instantOf?, Zone.instantOf]
  cases found : z.earliest? wall with
  | some instant =>
    have shown : z.wallAt instant = wall := (Zone.isLeast_of_earliest? found).1
    have near := narrow _ (z.offsetAt_mem_offsets instant)
    have reading := (z.wallAt_eq_iff instant wall).mp shown
    rw [Option.getD_some]
    exact ⟨gives_millis (by omega) (by omega), by omega, by omega⟩
  | none =>
    have near := narrow _ (z.offsetAt_mem_offsets wall)
    rw [Option.getD_none]
    refine ⟨?_, by omega, by omega⟩
    refine (gives_millis (by omega) (by omega)).bind fun utc isUtc => ?_
    refine (gives_word (by omega) (by omega)).bind fun offset isOffset => ?_
    refine (gives_mul isOffset (n := 1000) rfl (by omega) (by omega)).bind fun shift isShift => ?_
    exact gives_sub isUtc isShift (by omega) (by omega)

/-- No operation overflows on the way to the window that ends today, nor does its length. -/
theorem gives_endingToday {z : Zone} (narrow : z.WithinADay) {now : Int}
    (reach : (z.momentAt now).date.WithinReach) (lookbackDays : UInt32) (ingestType : String) :
    Gives (endingToday? z now lookbackDays ingestType) fun w =>
      w.exact = endingToday z now lookbackDays.toNat ingestType ∧
        -0x8000000000000000 ≤ w.stop.toInt - w.start.toInt ∧
        w.stop.toInt - w.start.toInt < 0x8000000000000000 := by
  rw [z.date_momentAt] at reach
  obtain ⟨early, late⟩ := Date.day_bounds reach
  have few := lookbackDays.toNat_lt
  rw [endingToday?, endingToday, lastMillis, millisPerDay]
  generalize dayOf (z.wallAt now) = day at early late
  obtain ⟨isFirst, first_low, first_high⟩ := gives_instantOf narrow
    (day * 86400000) (by omega) (by omega)
  obtain ⟨isLast, last_low, last_high⟩ := gives_instantOf narrow
    (day * 86400000 + (86400000 - 1)) (by omega) (by omega)
  have days : (Int64.ofNat lookbackDays.toNat).toInt = lookbackDays.toNat :=
    Int64.toInt_ofNat_of_lt (by omega)
  refine isFirst.bind fun first firstIs => ?_
  refine (gives_mul days (n := 86400000) rfl (by omega) (by omega)).bind fun back backIs => ?_
  refine (gives_sub firstIs backIs (by omega) (by omega)).bind fun start startIs => ?_
  refine isLast.bind fun last lastIs => ?_
  refine (gives_add lastIs (n := 1) rfl (by omega) (by omega)).bind fun stop stopIs => ?_
  have low : -0x8000000000000000 ≤ stop.toInt - start.toInt := by omega
  have high : stop.toInt - start.toInt < 0x8000000000000000 := by omega
  refine ⟨⟨start, stop, ingestType⟩, rfl, ?_, low, high⟩
  rw [exact, startIs, stopIs]

/-- Words are enough. With a date within reach, clocks that are less than a day off and whatever
count of days, no operation overflows: the bounds are the whole numbers of the window that ends
today, and its length is their difference. The length of any window in words is the number nearest
to the difference that fits. -/
theorem words_suffice :
    (∀ (zone : Zone) (now : Int) (lookbackDays : UInt32) (ingestType : String),
      zone.WithinADay → (zone.momentAt now).date.WithinReach →
        ∃ w, endingToday? zone now lookbackDays ingestType = some w ∧
          w.exact = endingToday zone now lookbackDays.toNat ingestType ∧
          w.span.toInt = w.exact.stop - w.exact.start) ∧
      ∀ w : Words, w.span.toInt = w.exact.span ∧
        w.span.toInt = max (-0x8000000000000000)
          (min 0x7fffffffffffffff (w.stop.toInt - w.start.toInt)) := by
  have length (w : Words) : w.span.toInt = saturate (w.stop.toInt - w.start.toInt) :=
    toInt_saturatingSub
  refine ⟨fun zone now lookbackDays ingestType narrow reach => ?_, fun w => ?_⟩
  · obtain ⟨w, given, same, low, high⟩ :=
      gives_endingToday narrow reach lookbackDays ingestType
    refine ⟨w, given, same, ?_⟩
    rw [length, saturate, exact]
    dsimp only
    omega
  · exact ⟨length w, length w⟩

/-- The last day of all, whose midnight the clocks skip, and as many days before it as can be
counted. -/
theorem words_suffice_last_day :
    let zone : Zone := ⟨-3600, [(8210266790400, 7200)]⟩
    let now : Int := 8210266833600000
    zone.WithinADay ∧ (zone.momentAt now).date = ⟨262142, 12, 31⟩ ∧
      ¬ zone.Shows (dayOf (zone.wallAt now) * millisPerDay) ∧
      ∃ w, endingToday? zone now 4294967295 "bulk" = some w ∧
        w.exact = ⟨-362874907504800000, 8210266869600000, "bulk"⟩ ∧
        w.span.toInt = 371085174374400000 := by
  intro zone now
  have narrow : zone.WithinADay := by decide
  have date : (zone.momentAt now).date = ⟨262142, 12, 31⟩ := by decide
  have skipped : zone.earliest? (dayOf (zone.wallAt now) * millisPerDay) = none := by decide
  obtain ⟨w, given, same, length⟩ :=
    words_suffice.1 zone now 4294967295 "bulk" narrow (date ▸ by decide)
  have window : endingToday zone now (4294967295 : UInt32).toNat "bulk" =
      ⟨-362874907504800000, 8210266869600000, "bulk"⟩ := by decide
  refine ⟨narrow, date, Zone.not_shows_of_earliest? skipped, w, given, same.trans window, ?_⟩
  rw [length, same, window]
  rfl

end Words

end Window

end IngestWatch
