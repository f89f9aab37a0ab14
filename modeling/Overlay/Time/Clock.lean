import Overlay.Time.Instant

/-!
# The clock

A clock may show anything: it may stand still between two readings, jump, or run backwards. It is
given by what it shows at each reading, and by how often it was read.
-/

namespace Overlay

/-- A clock. -/
structure Clock where
  /-- What the clock shows at each reading, counted from zero. -/
  reading : Nat → Instant
  /-- How often the clock was read. -/
  readings : Nat

namespace Clock

/-- What the clock shows at its next reading. -/
def next (c : Clock) : Instant := c.reading c.readings

/-- A reading, and the clock after it. -/
def read (c : Clock) : Instant × Clock := (c.next, { c with readings := c.readings + 1 })

/-- The same clock, perhaps after more readings. -/
structure GoesOn (c c' : Clock) : Prop where
  reading : c'.reading = c.reading
  readings : c.readings ≤ c'.readings

/-- Without a reading a clock stays as it is. -/
theorem GoesOn.refl (c : Clock) : c.GoesOn c := ⟨rfl, Nat.le_refl _⟩

/-- More readings come after some. -/
theorem GoesOn.trans {c c' c'' : Clock} (h : c.GoesOn c') (h' : c'.GoesOn c'') : c.GoesOn c'' :=
  ⟨h'.reading.trans h.reading, Nat.le_trans h.readings h'.readings⟩

/-- A reading leaves the same clock. -/
theorem GoesOn.read (c : Clock) : c.GoesOn c.read.2 := ⟨rfl, Nat.le_succ _⟩

end Clock

end Overlay
