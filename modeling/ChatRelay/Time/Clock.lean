import ChatRelay.Time.Instant

/-! The wall clock of a run: it starts at 2026-01-01T00:00:00Z and each reading
moves it on by one millisecond. -/
namespace ChatRelay.Time

/-- The clock, holding its next reading. -/
structure Clock where
  next : Instant
  deriving DecidableEq, Repr

namespace Clock

def start : Clock := ⟨⟨1767225600, 0⟩⟩

/-- The instant one millisecond later, for an instant outside a leap second. -/
def tick (t : Instant) : Instant :=
  let n := t.nanos + 1000000
  ⟨t.seconds + (n / Instant.nanosPerSecond : Nat), n % Instant.nanosPerSecond⟩

def read (c : Clock) : Instant × Clock := (c.next, ⟨tick c.next⟩)

end Clock

end ChatRelay.Time
