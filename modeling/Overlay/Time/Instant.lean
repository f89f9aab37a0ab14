/-!
# Instants

A point of time in UTC to the nanosecond, counted from 1970-01-01T00:00:00. A leap second has no
second of its own in that count: it is the second before it, with a fraction of 10^9 or more.
-/

namespace Overlay

/-- A point of time: whole seconds since 1970, and nanoseconds. From 10^9 nanoseconds up it lies in
a leap second, which only the last second of a minute can have. -/
structure Instant where
  seconds : Int
  nanos : Nat
  nanos_lt : nanos < 2000000000
  leap : 1000000000 ≤ nanos → seconds % 60 = 59
  deriving DecidableEq, Repr

namespace Instant

/-- The instant with this count, if there is one. -/
def of? (seconds : Int) (nanos : Nat) : Option Instant :=
  if h : nanos < 2000000000 then
    if leap : 1000000000 ≤ nanos → seconds % 60 = 59 then some ⟨seconds, nanos, h, leap⟩ else none
  else none

/-- The instant at the start of a second. -/
def ofSeconds (seconds : Int) : Instant :=
  ⟨seconds, 0, by decide, fun h => absurd h (by decide)⟩

/-- The order of time. -/
def Before (s t : Instant) : Prop :=
  s.seconds < t.seconds ∨ (s.seconds = t.seconds ∧ s.nanos < t.nanos)

instance (s t : Instant) : Decidable (s.Before t) := by unfold Before; infer_instance

theorem of?_eq_some (t : Instant) : of? t.seconds t.nanos = some t := by
  rw [of?, dif_pos t.nanos_lt, dif_pos t.leap]

end Instant

end Overlay
