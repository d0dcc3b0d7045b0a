/-!
# Points in time

A point in time is counted in nanoseconds from the beginning of the year 1970, negative before it.
-/

namespace Telemetry

/-- A point in time. -/
structure Timestamp where
  /-- The nanoseconds since the beginning of 1970, in universal time. -/
  nanos : Int
deriving DecidableEq, Repr

namespace Timestamp

/-- The point in time that logging frameworks count in milliseconds. -/
def ofMillis (millis : Int) : Timestamp := ⟨millis * 1000000⟩

/-- The whole milliseconds up to a point in time. -/
def toMillis (t : Timestamp) : Int := Int.fdiv t.nanos 1000000

end Timestamp

end Telemetry
