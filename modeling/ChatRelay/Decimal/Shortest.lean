/-! The shortest decimal that reads back as a given double, found on the grids of
1 to 17 significant digits, in the interchange layout or the plain one. -/
namespace ChatRelay.Decimal

/-- `digits · 10^exponent`, with no trailing zero in `digits` unless it is 0. -/
structure Scientific where
  digits : Nat
  exponent : Int
  deriving DecidableEq, Repr

/-- Compare `a · 10^t` with `x · 2^s` exactly. -/
def compareScaled (a : Nat) (t : Int) (x : Nat) (s : Int) : Ordering :=
  compare (a * Nat.pow 10 t.toNat * Nat.pow 2 (-s).toNat) (x * Nat.pow 2 s.toNat * Nat.pow 10 (-t).toNat)

/-- `⌊m · 2^q / 10^k⌋`. -/
def quotient (m : Nat) (q k : Int) : Nat :=
  (m * Nat.pow 2 q.toNat * Nat.pow 10 (-k).toNat) / (Nat.pow 2 (-q).toNat * Nat.pow 10 k.toNat)

/-- Move `e` down until `10^e ≤ m · 2^q`, then up while `10^(e+1) ≤ m · 2^q`. -/
def adjustExponent : Nat → Nat → Int → Int → Int
  | 0, _, _, e => e
  | fuel + 1, m, q, e =>
    if compareScaled 1 e m q == .gt then adjustExponent fuel m q (e - 1)
    else if compareScaled 1 (e + 1) m q != .gt then adjustExponent fuel m q (e + 1)
    else e

/-- `⌊log₁₀ (m · 2^q)⌋` for `m > 0`. -/
def decimalExponent (m : Nat) (q : Int) : Int :=
  adjustExponent 8 m q (((Nat.log2 m : Int) + q) * 301029 / 1000000)

def trim : Nat → Scientific → Scientific
  | 0, d => d
  | fuel + 1, d =>
    if d.digits ≠ 0 ∧ d.digits % 10 = 0 then trim fuel ⟨d.digits / 10, d.exponent + 1⟩ else d

/-- Whether `c · 10^k` lies between `lo · 2^s` and `hi · 2^s`, ends included when `closed`. -/
def inside (c : Nat) (k : Int) (lo hi : Nat) (s : Int) (closed : Bool) : Bool :=
  let above := compareScaled c k lo s
  let below := compareScaled c k hi s
  (above == .gt || (closed && above == .eq)) && (below == .lt || (closed && below == .eq))

/-- The shortest decimal for `m · 2^q` whose reading interval reaches `lowGap`
quarter-units below and two quarter-units above, searched from `p` digits. -/
def search : Nat → Nat → Nat → Int → Nat → Bool → Int → Scientific
  | 0, _, m, q, _, _, e => ⟨quotient m q (e - 16), e - 16⟩
  | fuel + 1, p, m, q, lowGap, closed, e =>
    let k := e - p + 1
    let c₁ := quotient m q k
    let c₂ := c₁ + 1
    let s := q - 2
    let lo := 4 * m - lowGap
    let hi := 4 * m + 2
    let in₁ := inside c₁ k lo hi s closed
    let in₂ := inside c₂ k lo hi s closed
    if in₁ && in₂ then
      match compareScaled (c₁ + c₂) k (2 * m) q with
      | .lt => trim 20 ⟨c₂, k⟩
      | .gt => trim 20 ⟨c₁, k⟩
      | .eq => trim 20 ⟨if c₁ % 2 = 0 then c₁ else c₂, k⟩
    else if in₁ then trim 20 ⟨c₁, k⟩
    else if in₂ then trim 20 ⟨c₂, k⟩
    else search fuel (p + 1) m q lowGap closed e

/-- The shortest decimal reading back as the positive double `m · 2^q`; `lowGap`
is 1 at the bottom of a binade, where the next lower double is closer. -/
def shortestOf (m : Nat) (q : Int) (lowerCloser : Bool) : Scientific :=
  search 17 1 m q (if lowerCloser then 1 else 2) (m % 2 = 0) (decimalExponent m q)

inductive Kind where
  | finite (negative : Bool) (d : Scientific)
  | infinite (negative : Bool)
  | nan
  deriving DecidableEq, Repr

/-- A double as its shortest decimal, or infinite or not a number. -/
def kindOf (x : Float) : Kind :=
  let bits := x.toBits.toNat
  let negative := bits / Nat.pow 2 63 % 2 = 1
  let field : Nat := bits / Nat.pow 2 52 % 2048
  let mantissa : Nat := bits % Nat.pow 2 52
  if field = 2047 then (if mantissa = 0 then .infinite negative else .nan)
  else if field = 0 ∧ mantissa = 0 then .finite negative ⟨0, 0⟩
  else if field = 0 then .finite negative (shortestOf mantissa (-1074) false)
  else .finite negative (shortestOf (mantissa + Nat.pow 2 52) ((field : Int) - 1075) (mantissa = 0 ∧ field > 1))

def zeros (n : Nat) : String := String.ofList (List.replicate n '0')

/-- The exponent of the interchange layout: `e`, a sign when it is not
negative too, and the digits. -/
def exponentText (e : Int) : String := (if e < 0 then "e" else "e+") ++ toString e

/-- The interchange layout of a nonzero decimal: positional between 1e-5 and
1e16 with at least one fraction digit, otherwise one digit before the point
and a signed exponent. -/
def interchange (d : Scientific) : String :=
  let s := toString d.digits
  let len : Int := s.length
  let k := d.exponent
  let kk := len + k
  if d.digits = 0 then "0.0"
  else if 0 ≤ k ∧ kk ≤ 16 then s ++ zeros k.toNat ++ ".0"
  else if 0 < kk ∧ kk ≤ 16 then
    String.ofList (s.toList.take kk.toNat) ++ "." ++ String.ofList (s.toList.drop kk.toNat)
  else if -5 < kk ∧ kk ≤ 0 then "0." ++ zeros (-kk).toNat ++ s
  else if len = 1 then s ++ exponentText (kk - 1)
  else String.ofList (s.toList.take 1) ++ "." ++ String.ofList (s.toList.drop 1) ++ exponentText (kk - 1)

/-- The plain layout of a decimal: all digits positional, no exponent, and no
fraction when it is zero. -/
def plain (d : Scientific) : String :=
  let s := toString d.digits
  let len : Int := s.length
  let kk := len + d.exponent
  if d.digits = 0 then "0"
  else if kk ≤ 0 then "0." ++ zeros (-kk).toNat ++ s
  else if kk < len then
    String.ofList (s.toList.take kk.toNat) ++ "." ++ String.ofList (s.toList.drop kk.toNat)
  else s ++ zeros (kk - len).toNat

def interchangeText? (x : Float) : Option String :=
  match kindOf x with
  | .finite neg d => some ((if neg then "-" else "") ++ interchange d)
  | _ => none

def plainText (x : Float) : String :=
  match kindOf x with
  | .finite neg d => (if neg then "-" else "") ++ plain d
  | .infinite neg => if neg then "-inf" else "inf"
  | .nan => "NaN"

end ChatRelay.Decimal
