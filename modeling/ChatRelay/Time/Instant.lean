import ChatRelay.Time.Civil

/-! Instants of UTC time with nanosecond resolution; an offset of 1e9 or more marks
a leap second on the last second of a minute. -/
namespace ChatRelay.Time

/-- Seconds since 1970-01-01T00:00:00Z, and nanoseconds into that second
(from 1e9 upward inside a leap second). -/
structure Instant where
  seconds : Int
  nanos : Nat
  deriving DecidableEq, Repr, Inhabited

namespace Instant

def nanosPerSecond : Nat := 1000000000

/-- The first second of year -262143. -/
def minSeconds : Int := -8334601228800

/-- The last second of year 262142. -/
def maxSeconds : Int := 8210266876799

/-- The instant is in range and a leap offset only follows second 59. -/
def isValid (t : Instant) : Bool :=
  minSeconds ≤ t.seconds && t.seconds ≤ maxSeconds && t.nanos < 2 * nanosPerSecond &&
    (t.nanos < nanosPerSecond || t.seconds % 60 == 59)

def ofUnix? (seconds : Int) (nanos : Nat) : Option Instant :=
  let t : Instant := ⟨seconds, nanos⟩
  if t.isValid then some t else none

def epoch : Instant := ⟨0, 0⟩

instance : LT Instant := ⟨fun a b => a.seconds < b.seconds ∨ (a.seconds = b.seconds ∧ a.nanos < b.nanos)⟩
instance : LE Instant := ⟨fun a b => a.seconds < b.seconds ∨ (a.seconds = b.seconds ∧ a.nanos ≤ b.nanos)⟩

instance (a b : Instant) : Decidable (a < b) :=
  inferInstanceAs (Decidable (a.seconds < b.seconds ∨ (a.seconds = b.seconds ∧ a.nanos < b.nanos)))

instance (a b : Instant) : Decidable (a ≤ b) :=
  inferInstanceAs (Decidable (a.seconds < b.seconds ∨ (a.seconds = b.seconds ∧ a.nanos ≤ b.nanos)))

def day (t : Instant) : Int := t.seconds / 86400

/-- Seconds since midnight, 0–86399; a leap second reports 86399 or its
minute's second 59. -/
def secondOfDay (t : Instant) : Nat := (t.seconds % 86400).toNat

def date (t : Instant) : Date := Date.ofDays t.day

/-- The instant with the nanoseconds below a whole microsecond dropped. Inside a
leap second it stays inside it. -/
def truncMicros (t : Instant) : Instant := ⟨t.seconds, t.nanos - t.nanos % 1000⟩

end Instant

end ChatRelay.Time
