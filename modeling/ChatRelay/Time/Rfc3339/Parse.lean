import ChatRelay.Time.Civil
import ChatRelay.Time.Instant
import ChatRelay.Text.Blank

/-! Reading an RFC 3339 date and time, in the relaxed form that servers accept,
into an instant in UTC; the first fault from the left decides the error. -/
namespace ChatRelay.Time

/-- Why a text is not an RFC 3339 date and time. -/
inductive ReadError where
  | outOfRange
  | impossible
  | invalid
  | tooShort
  | tooLong
  deriving DecidableEq, Repr

def ReadError.message : ReadError → String
  | .outOfRange => "input is out of range"
  | .impossible => "no possible date and time matching input"
  | .invalid => "input contains invalid characters"
  | .tooShort => "premature end of input"
  | .tooLong => "trailing input"

abbrev Scan := StateT (List Char) (Except ReadError)

/-- The fields of a date and time as written. -/
structure Fields where
  year : Int
  month : Nat
  day : Nat
  hour : Nat
  minute : Nat
  second : Nat
  nanos : Nat
  offset : Int
  deriving DecidableEq, Repr

namespace Scan

def blanks : Scan Unit := modify Text.trimStart

def digitsValue (ds : List Char) : Nat := ds.foldl (fun acc d => acc * 10 + (d.toNat - 48)) 0

/-- The largest value a field may take while it is read: 2^63 − 1. -/
def fieldLimit : Nat := 9223372036854775807

/-- One or more decimal digits, at most `bound` of them when there is a bound. -/
def number (bound : Option Nat) : Scan Nat := do
  let s ← get
  if s.isEmpty then throw .tooShort
  let window := match bound with
    | some k => s.take k
    | none => s
  let ds := window.takeWhile Char.isDigit
  if ds.isEmpty then throw .invalid
  let v := digitsValue ds
  if fieldLimit < v then throw .outOfRange
  set (s.drop ds.length)
  pure v

/-- The year: four digits at most, or a sign and any number of digits; it must
fit in 32 bits. -/
def year : Scan Int := do
  blanks
  let v : Int ← match ← get with
    | '-' :: rest => do set rest; let n ← number none; pure (-(n : Int))
    | '+' :: rest => do set rest; let n ← number none; pure (n : Int)
    | _ => do let n ← number (some 4); pure (n : Int)
  if v < -2147483648 ∨ 2147483647 < v then throw .outOfRange
  pure v

def ranged (lo hi : Nat) : Scan Nat := do
  blanks
  let v ← number (some 2)
  if v < lo ∨ hi < v then throw .outOfRange
  pure v

def mark (c : Char) : Scan Unit := do
  blanks
  match ← get with
  | [] => throw .tooShort
  | d :: rest => if d = c then set rest else throw .invalid

def separator : Scan Unit := do
  match ← get with
  | [] => throw .tooShort
  | c :: rest => if c = 'T' ∨ c = 't' ∨ c = ' ' then set rest else throw .invalid

/-- An optional fraction of a second, in nanoseconds: a point and one to nine
digits; further digits are dropped. -/
def fraction : Scan Nat := do
  match ← get with
  | '.' :: rest => do
    set rest
    let v ← number (some 9)
    let used := rest.length - (← get).length
    modify (·.dropWhile Char.isDigit)
    pure (v * Nat.pow 10 (9 - used))
  | _ => pure 0

def underTwoBytes : List Char → Bool
  | [] => true
  | [c] => c.utf8Size < 2
  | _ => false

def digitPair : List Char → Option (Nat × Nat)
  | a :: b :: _ => if a.isDigit ∧ b.isDigit then some (a.toNat - 48, b.toNat - 48) else none
  | _ => none

/-- A numeric offset after its sign: two hour digits, optional colons or
blanks, two minute digits below 60. -/
def offsetDigits : Scan Nat := do
  let s ← get
  if underTwoBytes s then throw .tooShort
  let some (h1, h2) := digitPair s | throw .invalid
  let s := (s.drop 2).dropWhile (fun c => c = ':' ∨ Text.isWhiteSpace c)
  if underTwoBytes s then throw .tooShort
  let some (m1, m2) := digitPair s | throw .invalid
  if 6 ≤ m1 then throw .outOfRange
  set (s.drop 2)
  pure ((h1 * 10 + h2) * 3600 + (m1 * 10 + m2) * 60)

/-- The offset from UTC in seconds: `Z`, `z`, `UTC` in any case, or a sign
(`+`, `-` or the minus sign U+2212) and hours and minutes. -/
def offset : Scan Int := do
  blanks
  match ← get with
  | [] => throw .tooShort
  | c :: rest =>
    match rest with
    | c2 :: c3 :: more =>
      if c.toLower = 'u' ∧ c2.toLower = 't' ∧ c3.toLower = 'c' then
        set more
        return 0
    | _ => pure ()
    if c = 'Z' ∨ c = 'z' then
      set rest
      return 0
    let negative ← if c = '+' then pure false
      else if c = '-' ∨ c = '−' then pure true
      else throw .invalid
    set rest
    let v ← offsetDigits
    pure (if negative then -(v : Int) else v)

def fields : Scan Fields := do
  let year ← year
  mark '-'
  let month ← ranged 1 12
  mark '-'
  let day ← ranged 1 31
  separator
  let hour ← ranged 0 23
  mark ':'
  let minute ← ranged 0 59
  mark ':'
  let second ← ranged 0 60
  let nanos ← fraction
  let offset ← offset
  blanks
  if !(← get).isEmpty then throw .tooLong
  pure ⟨year, month, day, hour, minute, second, nanos, offset⟩

end Scan

/-- The instant the fields name: the date must exist and the offset lie within
a day, else the input is out of range; an instant in UTC outside the supported
range, from a date and time inside it, is impossible. -/
def Fields.toInstant (f : Fields) : Except ReadError Instant := do
  let date : Date := ⟨f.year, f.month, f.day⟩
  if !date.isValid then throw .outOfRange
  let (second, nanos) := if f.second = 60 then (59, Instant.nanosPerSecond + f.nanos) else (f.second, f.nanos)
  if f.offset ≤ -86400 ∨ 86400 ≤ f.offset then throw .outOfRange
  let seconds := date.toDays * 86400 + (f.hour * 3600 + f.minute * 60 + second : Nat) - f.offset
  match Instant.ofUnix? seconds nanos with
  | some t => pure t
  | none => throw .impossible

def Instant.parseRfc3339 (s : String) : Except ReadError Instant := do
  let (f, _) ← Scan.fields.run s.toList
  f.toInstant

def Instant.parseRfc3339? (s : String) : Option Instant := (Instant.parseRfc3339 s).toOption

end ChatRelay.Time
