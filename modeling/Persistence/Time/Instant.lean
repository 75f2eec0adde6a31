import Persistence.Time.Date

/-!
Instants of universal time: whole seconds since the start of 1970 and nanoseconds. During a leap second the
nanoseconds run on past 10^9 while the seconds stand still.
-/

namespace Persistence

/-- An instant of universal time. -/
structure Instant where
  seconds : Int
  nanos : Nat
deriving DecidableEq, Inhabited, Repr

namespace Instant

/-- The first second of the year -262143. -/
def firstSecond : Int := -8334601228800

/-- The last second of the year 262142. -/
def lastSecond : Int := 8210266876799

/-- Whether the calendar reaches the instant. -/
def isInRange (t : Instant) : Bool :=
  firstSecond ≤ t.seconds && t.seconds ≤ lastSecond

/-- The instant a number of milliseconds after the start of 1970, unless it is out of range. -/
def ofMillis? (millis : Int) : Option Instant :=
  let t : Instant := ⟨millis / 1000, (millis % 1000).toNat * 1000000⟩
  if t.isInRange then some t else none

/-- Earlier instants come first; within a second the nanoseconds decide, those of a leap second coming last. -/
def compare (s t : Instant) : Ordering :=
  (Ord.compare s.seconds t.seconds).then (Ord.compare s.nanos t.nanos)

/-- The date of an instant, in universal time. -/
def date (t : Instant) : Date :=
  Date.ofDayNumber (t.seconds / 86400)

/-- How many seconds of its day are over at an instant. -/
def secondOfDay (t : Instant) : Nat :=
  (t.seconds % 86400).toNat

end Instant

end Persistence
