/-! Reading UTF-8 bytes as text, each maximal invalid prefix replaced once by
U+FFFD. -/
namespace ChatRelay.Text.Utf8

def isContinuation (b : Nat) : Bool := 0x80 ≤ b && b ≤ 0xBF

/-- Whether the second byte of a sequence is allowed after `lead`. -/
def secondFits (lead second : Nat) : Bool :=
  if lead = 0xE0 then 0xA0 ≤ second && second ≤ 0xBF
  else if lead = 0xED then 0x80 ≤ second && second ≤ 0x9F
  else if lead = 0xF0 then 0x90 ≤ second && second ≤ 0xBF
  else if lead = 0xF4 then 0x80 ≤ second && second ≤ 0x8F
  else isContinuation second

/-- The number of bytes of a sequence led by `lead`, 0 for a byte that cannot
lead one. -/
def width (lead : Nat) : Nat :=
  if lead < 0x80 then 1
  else if 0xC2 ≤ lead && lead ≤ 0xDF then 2
  else if 0xE0 ≤ lead && lead ≤ 0xEF then 3
  else if 0xF0 ≤ lead && lead ≤ 0xF4 then 4
  else 0

def replacement : Char := '�'

def valueOf (lead : Nat) (rest : List Nat) : Nat :=
  rest.foldl (fun acc b => acc * 64 + (b - 0x80)) (lead % (Nat.pow 2 (7 - rest.length)))

/-- How many of the bytes continue a sequence, `need` at most. -/
def continued : Nat → List Nat → Nat
  | 0, _ => 0
  | _, [] => 0
  | need + 1, b :: rest => if isContinuation b then 1 + continued need rest else 0

/-- How many of the bytes after `lead` belong to its sequence, `need` at most:
the first must fit the lead byte, the others continue it. -/
def accepted (lead need : Nat) : List Nat → Nat
  | [] => 0
  | b :: rest => if secondFits lead b then 1 + continued (need - 1) rest else 0

def decodeChars : Nat → List Nat → List Char
  | 0, _ => []
  | _, [] => []
  | fuel + 1, lead :: rest =>
    let w := width lead
    if w = 1 then Char.ofNat lead :: decodeChars fuel rest
    else if w = 0 then replacement :: decodeChars fuel rest
    else
      let k := accepted lead (w - 1) rest
      if k = w - 1 then Char.ofNat (valueOf lead (rest.take k)) :: decodeChars fuel (rest.drop k)
      else replacement :: decodeChars fuel (rest.drop k)

/-- The text of UTF-8 bytes, each maximal invalid part replaced by U+FFFD.
Overlong forms, surrogates and values past U+10FFFF are replaced byte by byte. -/
def decodeLossy (bytes : List UInt8) : String :=
  String.ofList (decodeChars bytes.length (bytes.map (·.toNat)))

end ChatRelay.Text.Utf8
