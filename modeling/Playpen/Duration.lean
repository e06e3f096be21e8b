/-!
# Durations

Spans of time in whole nanoseconds, and the words for the limit that a run went
over: seconds if it is a whole number of them, milliseconds otherwise.
-/

namespace Playpen

/-- A span of time. -/
structure Duration where
  nanos : Nat
deriving DecidableEq, Repr

namespace Duration

/-- The number of milliseconds. -/
def ofMillis (n : Nat) : Duration := ⟨n * 1000000⟩

/-- Whole seconds and further nanoseconds. -/
def ofParts (seconds nanos : Nat) : Duration := ⟨seconds * 1000000000 + nanos⟩

/-- The whole seconds. -/
def seconds (d : Duration) : Nat := d.nanos / 1000000000

/-- The nanoseconds beyond the whole seconds. -/
def subsecondNanos (d : Duration) : Nat := d.nanos % 1000000000

/-- The whole milliseconds. -/
def millis (d : Duration) : Nat := d.nanos / 1000000

/-- No time at all. -/
def isZero (d : Duration) : Bool := d.nanos == 0

/-- The duration in words, cut to milliseconds. -/
def describe (d : Duration) : String :=
  if d.millis = 1000 then "1 second"
  else if d.millis % 1000 = 0 then s!"{d.millis / 1000} seconds"
  else s!"{d.millis} ms"

end Duration

end Playpen
