import ChatRelay.Time.Instant

/-! Signed spans of time and their addition to instants, which exists while the
result lies in the supported calendar range. -/
namespace ChatRelay.Time

/-- A signed span of time in nanoseconds. -/
structure Delta where
  nanos : Int
  deriving DecidableEq, Repr, Inhabited

namespace Delta

/-- The largest magnitude, 2^63 − 1 milliseconds, in nanoseconds. -/
def maxNanos : Int := 9223372036854775807000000

/-- The span `seconds + nanos / 1e9`, if `nanos` is below a second and the
total is within range. -/
def ofParts? (seconds : Int) (nanos : Nat) : Option Delta :=
  let total := seconds * 1000000000 + nanos
  if nanos < 1000000000 ∧ -maxNanos ≤ total ∧ total ≤ maxNanos then some ⟨total⟩ else none

def ofMicros (n : Int) : Delta := ⟨n * 1000⟩

/-- Whole seconds, truncated toward zero. -/
def wholeSeconds (d : Delta) : Int := d.nanos.tdiv 1000000000

/-- The sub-second part, with the sign of the span. -/
def subsecNanos (d : Delta) : Int := d.nanos.tmod 1000000000

end Delta

namespace Instant

/-- Seconds and sub-second offset after moving by whole seconds `s` and a
signed sub-second part `f`, for a move that leaves any leap second. -/
def shift (t : Instant) (s f : Int) : Int × Int :=
  let frac : Int := t.nanos
  -- leave a leap second once the move passes it
  let (secs, frac) :=
    if frac ≥ 1000000000 then
      if s > 0 ∨ (f > 0 ∧ frac ≥ 2000000000 - f) then (t.seconds, frac - 1000000000)
      else if s < 0 then (t.seconds + 1, frac - 1000000000)
      else (t.seconds, frac)
    else (t.seconds, frac)
  let secs := secs + s
  let frac := frac + f
  if frac < 0 then (secs - 1, frac + 1000000000)
  else if frac ≥ 1000000000 then (secs + 1, frac - 1000000000)
  else (secs, frac)

def addDelta? (t : Instant) (d : Delta) : Option Instant :=
  let s := d.wholeSeconds
  let f := d.subsecNanos
  if t.nanos ≥ 1000000000 ∧ s = 0 ∧ ¬ (f > 0 ∧ (t.nanos : Int) ≥ 2000000000 - f) then
    -- the move stays within the leap second
    some ⟨t.seconds, ((t.nanos : Int) + f).toNat⟩
  else
    let (secs, frac) := t.shift s f
    if minSeconds ≤ secs ∧ secs ≤ maxSeconds then some ⟨secs, frac.toNat⟩ else none

/-- The span from `b` to `a`, as `a - b` measures it: the days between their
dates plus the difference of their times of day. A leap second is counted when
the other instant's time of day lies past it on the clock, so a leap second at
the end of a day is not counted by a span that ends on a later day. -/
def since (a b : Instant) : Delta :=
  let adjust : Int :=
    if b.secondOfDay < a.secondOfDay ∧ b.nanos ≥ nanosPerSecond then 1
    else if a.secondOfDay < b.secondOfDay ∧ a.nanos ≥ nanosPerSecond then -1
    else 0
  ⟨(a.seconds - b.seconds + adjust) * nanosPerSecond + a.nanos - b.nanos⟩

end Instant

end ChatRelay.Time
