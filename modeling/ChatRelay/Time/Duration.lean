/-! Unsigned lengths of time, in whole seconds below 2^64 and nanoseconds below a
second, and their debugging text. -/
namespace ChatRelay.Time

/-- A length of time: `seconds` below 2^64 and `nanos` below 1e9. -/
structure Duration where
  seconds : Nat
  nanos : Nat
  deriving DecidableEq, Repr, Inhabited

namespace Duration

/-- One more than the largest number of whole seconds. -/
def secondsLimit : Nat := 18446744073709551616

/-- The length `seconds + nanos / 1e9`, carrying whole seconds out of `nanos`;
`none` when the seconds would reach 2^64. -/
def new? (seconds nanos : Nat) : Option Duration :=
  let s := seconds + nanos / 1000000000
  if s < secondsLimit then some ⟨s, nanos % 1000000000⟩ else none

def ofSeconds (n : Nat) : Duration := ⟨n, 0⟩

def ofMillis (n : Nat) : Duration := ⟨n / 1000, n % 1000 * 1000000⟩

def wholeMicros (d : Duration) : Nat := d.seconds * 1000000 + d.nanos / 1000

def wholeMillis (d : Duration) : Nat := d.seconds * 1000 + d.nanos / 1000000

def totalNanos (d : Duration) : Nat := d.seconds * 1000000000 + d.nanos

/-- The digits of `frac / (10 * divisor)` after the decimal point, up to the
last nonzero one. -/
def fractionDigits : Nat → Nat → Nat → List Char
  | 0, _, _ => []
  | fuel + 1, frac, divisor =>
    if frac = 0 ∨ divisor = 0 then []
    else Char.ofNat (48 + frac / divisor) :: fractionDigits fuel (frac % divisor) (divisor / 10)

def decimalText (whole frac divisor : Nat) (unit : String) : String :=
  let digits := fractionDigits 9 frac divisor
  toString whole ++ (if digits.isEmpty then "" else "." ++ String.ofList digits) ++ unit

/-- The debugging text of the length, as in `1.5µs` or `18446744073709551615.999999999s`. -/
def debugText (d : Duration) : String :=
  if d.seconds > 0 then decimalText d.seconds d.nanos 100000000 "s"
  else if d.nanos ≥ 1000000 then decimalText (d.nanos / 1000000) (d.nanos % 1000000) 100000 "ms"
  else if d.nanos ≥ 1000 then decimalText (d.nanos / 1000) (d.nanos % 1000) 100 "µs"
  else decimalText d.nanos 0 1 "ns"

end Duration

end ChatRelay.Time
