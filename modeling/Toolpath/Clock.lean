import Toolpath.Decimal.Layout
import Toolpath.Log.Record
/-!
# Measuring time

A clock hands out its readings one by one and repeats the last. A stretch of work takes a reading
before and a reading after.

## Main definitions

* `Toolpath.Clock`, `Toolpath.Clock.read` — the readings still to come.
* `Toolpath.Clock.stretch` — the time between the next two readings.
* `Toolpath.Clock.report` — the report of a measured stretch.
-/

namespace Toolpath

/-- The readings still to come, in seconds, and the reading that repeats after them. -/
structure Clock where
  coming : List Float := []
  last : Float := 0.0
  deriving Repr

namespace Clock

/-- A clock with the given readings. -/
def ofReadings (readings : List Float) : Clock := ⟨readings, 0.0⟩

/-- The next reading. -/
def read (c : Clock) : Float × Clock :=
  match c.coming with
  | [] => (c.last, c)
  | t :: rest => (t, ⟨rest, t⟩)

/-- The time between the next two readings. -/
def stretch (c : Clock) : Float × Clock :=
  let (start, c) := c.read
  let (stop, c) := c.read
  (stop - start, c)

/-- The report of a measured stretch of named work. -/
def report (name : String) (elapsed : Float) : Log.Record :=
  .of "gcode_layers.utils.profiler" .debug
    s!"{name}: {String.ofList (Decimal.fixed 3 elapsed)} s"

end Clock

end Toolpath
