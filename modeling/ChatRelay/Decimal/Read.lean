/-! Reading 64-bit integers and doubles from text, as configuration loaders do;
nothing else may stand in the text. -/
namespace ChatRelay.Decimal

def digitsValue (ds : List Char) : Nat := ds.foldl (fun acc d => acc * 10 + (d.toNat - 48)) 0

def splitSign : List Char → Bool × List Char
  | '-' :: rest => (true, rest)
  | '+' :: rest => (false, rest)
  | cs => (false, cs)

/-- A signed 64-bit integer. -/
def readInt? (s : String) : Option Int :=
  let (negative, ds) := splitSign s.toList
  if ds.isEmpty || !ds.all Char.isDigit then none
  else
    let n := digitsValue ds
    let v : Int := if negative then -(n : Int) else n
    if v < -9223372036854775808 ∨ 9223372036854775807 < v then none else some v

def infinity : Float := 1.0 / 0.0

/-- The nearest double to `m · 10^e`, with `d` the number of digits of `m`. -/
def nearest (m : Nat) (e : Int) (d : Nat) : Float :=
  if m = 0 then 0
  else if 310 < (d : Int) + e then infinity
  else if (d : Int) + e < -326 then 0
  else if e < 0 then Float.ofScientific m true e.natAbs
  else Float.ofScientific m false e.toNat

def lowerAscii (cs : List Char) : List Char := cs.map Char.toLower

def exponentOf? (cs : List Char) : Option Int :=
  let (negative, ds) := splitSign cs
  if ds.isEmpty || !ds.all Char.isDigit then none
  else
    let n := digitsValue ds
    some (if negative then -(n : Int) else n)

/-- A double written in decimal, or as infinity or not-a-number. -/
def readFloat? (s : String) : Option Float :=
  let (negative, body) := splitSign s.toList
  let signed := fun (x : Float) => if negative then -x else x
  let word := lowerAscii body
  if word = "inf".toList ∨ word = "infinity".toList then some (signed infinity)
  else if word = "nan".toList then some (0.0 / 0.0)
  else
    let whole := body.takeWhile Char.isDigit
    let rest := body.drop whole.length
    let (fracDigits, rest) := match rest with
      | '.' :: more => (more.takeWhile Char.isDigit, more.drop (more.takeWhile Char.isDigit).length)
      | _ => ([], rest)
    if whole.isEmpty ∧ fracDigits.isEmpty then none
    else
      let exponent : Option Int := match rest with
        | [] => some 0
        | c :: more => if c = 'e' ∨ c = 'E' then exponentOf? more else none
      match exponent with
      | none => none
      | some x =>
        let digits := (whole ++ fracDigits).dropWhile (· = '0')
        some (signed (nearest (digitsValue digits) (x - fracDigits.length) digits.length))

end ChatRelay.Decimal
