import ChatRelay.Time.Instant

/-! The RFC 3339 text of an instant in UTC, as `2023-11-14T22:13:20.123456Z`. -/
namespace ChatRelay.Time

def padded (width n : Nat) : String :=
  let s := toString n
  String.ofList (List.replicate (width - s.length) '0') ++ s

/-- The year field: four digits, or a sign and at least four digits outside 0–9999. -/
def yearText (y : Int) : String :=
  if 0 ≤ y ∧ y ≤ 9999 then padded 4 y.toNat
  else (if y < 0 then "-" else "+") ++ padded 4 y.natAbs

/-- The fraction of a second: empty, or a point and 3, 6 or 9 digits. -/
def fractionText (nanos : Nat) : String :=
  if nanos = 0 then ""
  else if nanos % 1000000 = 0 then "." ++ padded 3 (nanos / 1000000)
  else if nanos % 1000 = 0 then "." ++ padded 6 (nanos / 1000)
  else "." ++ padded 9 nanos

namespace Instant

def rfc3339 (t : Instant) : String :=
  let d := t.date
  let sod := t.secondOfDay
  let leap := t.nanos ≥ nanosPerSecond
  let second := sod % 60 + (if leap then 1 else 0)
  let nanos := if leap then t.nanos - nanosPerSecond else t.nanos
  yearText d.year ++ "-" ++ padded 2 d.month ++ "-" ++ padded 2 d.day ++ "T" ++
    padded 2 (sod / 3600) ++ ":" ++ padded 2 (sod % 3600 / 60) ++ ":" ++ padded 2 second ++
    fractionText nanos ++ "Z"

end Instant

end ChatRelay.Time
