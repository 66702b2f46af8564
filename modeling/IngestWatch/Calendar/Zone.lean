import IngestWatch.Calendar

/-!
Time zones as a base offset and a list of changes, and the instants at which a
zone's clocks show a given reading: none in a gap, several in a fold.
-/

namespace IngestWatch.Calendar

/-- Offsets are in seconds east of UTC, the instants of changes in seconds. -/
structure Zone where
  base : Int
  changes : List (Int × Int)
deriving DecidableEq, Repr

namespace Zone

/-- A zone that never changes. -/
def fixed (offset : Int) : Zone := ⟨offset, []⟩

/-- The offset at an instant in milliseconds: that of the last change not after it. -/
def offsetAt (z : Zone) (instant : Int) : Int :=
  z.changes.foldl (fun offset c => if c.1 * 1000 ≤ instant then c.2 else offset) z.base

/-- An instant by the zone's clocks. -/
def momentAt (z : Zone) (instant : Int) : Moment :=
  .ofMillis instant (z.offsetAt instant)

/-- The reading of the zone's clocks at an instant. -/
def wallAt (z : Zone) (instant : Int) : Int :=
  instant + z.offsetAt instant * 1000

/-- The offsets that were ever in force. -/
def offsets (z : Zone) : List Int :=
  z.base :: z.changes.map (·.2)

/-- The offsets at which a reading really occurs. -/
def offsetsOf (z : Zone) (wall : Int) : List Int :=
  z.offsets.filter fun e => z.offsetAt (wall - e * 1000) = e

/-- The earliest instant at which the clocks show a reading. -/
def earliest? (z : Zone) (wall : Int) : Option Int :=
  (z.offsetsOf wall).max?.map fun e => wall - e * 1000

/-- The instant of a reading. One that occurs more than once is its first occurrence;
one that never occurs is taken at the offset of the instant it names in UTC. -/
def instantOf (z : Zone) (wall : Int) : Int :=
  (z.earliest? wall).getD (wall - z.offsetAt wall * 1000)

end Zone

end IngestWatch.Calendar
