import ChatRelay.Text.Utf8

/-! The name-value pairs of a query string in the form encoding: pieces cut at
`&` and `=`, `+` read as a space, then `%XX` as a byte, then UTF-8 read lossily. -/
namespace ChatRelay.Http.Form

def hexValue? (b : UInt8) : Option Nat :=
  let n := b.toNat
  if 48 ≤ n ∧ n ≤ 57 then some (n - 48)
  else if 65 ≤ n ∧ n ≤ 70 then some (n - 55)
  else if 97 ≤ n ∧ n ≤ 102 then some (n - 87)
  else none

/-- Replace each `%` and two hex digits by the byte they spell. -/
def percentDecode : List UInt8 → List UInt8
  | b :: h :: l :: more =>
    match b == 37, hexValue? h, hexValue? l with
    | true, some x, some y => UInt8.ofNat (16 * x + y) :: percentDecode more
    | _, _, _ => b :: percentDecode (h :: l :: more)
  | bytes => bytes

def plusToSpace (bytes : List UInt8) : List UInt8 := bytes.map fun b => if b = 43 then 32 else b

def decodePart (bytes : List UInt8) : String := Text.Utf8.decodeLossy (percentDecode (plusToSpace bytes))

/-- A piece cut into name and value at its first `=`. -/
def splitPiece (piece : List UInt8) : String × String :=
  match piece.span (· ≠ 61) with
  | (name, []) => (decodePart name, "")
  | (name, _ :: value) => (decodePart name, decodePart value)

def pieces (bytes : List UInt8) : List (List UInt8) := bytes.splitOn 38

def pairs (query : String) : List (String × String) :=
  ((pieces query.toUTF8.toList).filter (!·.isEmpty)).map splitPiece

end ChatRelay.Http.Form
