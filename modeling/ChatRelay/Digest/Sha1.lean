/-! The SHA-1 digest of a byte string, as FIPS 180-4 defines it. -/
namespace ChatRelay.Digest.Sha1

structure State where
  a : UInt32
  b : UInt32
  c : UInt32
  d : UInt32
  e : UInt32

def initial : State := ⟨0x67452301, 0xEFCDAB89, 0x98BADCFE, 0x10325476, 0xC3D2E1F0⟩

/-- Rotate a word left by `n` bits, `0 < n < 32`. -/
def rotl (x : UInt32) (n : UInt32) : UInt32 := (x <<< n) ||| (x >>> (32 - n))

/-- The `n` bytes of a number, most significant first. -/
def bigEndian : Nat → Nat → List UInt8
  | 0, _ => []
  | n + 1, v => bigEndian n (v / 256) ++ [UInt8.ofNat (v % 256)]

/-- The message followed by its padding: a one bit, zeros up to 56 bytes past a
block boundary, and the length in bits. -/
def pad (msg : List UInt8) : List UInt8 :=
  msg ++ 0x80 :: List.replicate ((119 - msg.length % 64) % 64) 0 ++ bigEndian 8 (msg.length * 8)

/-- The message cut into blocks of 64 bytes, `fuel` blocks at most. -/
def blocks : Nat → List UInt8 → List (List UInt8)
  | 0, _ => []
  | fuel + 1, bytes =>
    if bytes.isEmpty then [] else bytes.take 64 :: blocks fuel (bytes.drop 64)

def word (bytes : List UInt8) : UInt32 :=
  bytes.foldl (fun acc b => (acc <<< 8) ||| b.toUInt32) 0

def words (block : List UInt8) : List UInt32 :=
  (List.range 16).map fun i => word ((block.drop (4 * i)).take 4)

/-- The eighty words of the message schedule. -/
def schedule (block : List UInt8) : Array UInt32 :=
  (List.range 64).foldl (fun (w : Array UInt32) t =>
    w.push (rotl (w[t + 13]! ^^^ w[t + 8]! ^^^ w[t + 2]! ^^^ w[t]!) 1)) (words block).toArray

/-- The round function and constant of round `t`. -/
def mix (t : Nat) (b c d : UInt32) : UInt32 × UInt32 :=
  if t < 20 then ((b &&& c) ||| (~~~b &&& d), 0x5A827999)
  else if t < 40 then (b ^^^ c ^^^ d, 0x6ED9EBA1)
  else if t < 60 then ((b &&& c) ||| (b &&& d) ||| (c &&& d), 0x8F1BBCDC)
  else (b ^^^ c ^^^ d, 0xCA62C1D6)

def round (w : Array UInt32) (s : State) (t : Nat) : State :=
  let (f, k) := mix t s.b s.c s.d
  ⟨rotl s.a 5 + f + s.e + k + w[t]!, s.a, rotl s.b 30, s.c, s.d⟩

def compress (s : State) (block : List UInt8) : State :=
  let w := schedule block
  let r := (List.range 80).foldl (round w) s
  ⟨s.a + r.a, s.b + r.b, s.c + r.c, s.d + r.d, s.e + r.e⟩

def digest (msg : List UInt8) : List UInt8 :=
  let padded := pad msg
  let s := (blocks (padded.length / 64) padded).foldl compress initial
  [s.a, s.b, s.c, s.d, s.e].flatMap fun x => bigEndian 4 x.toNat

/-- The padded message fills whole blocks. -/
theorem pad_length_mod (msg : List UInt8) : (pad msg).length % 64 = 0 := by
  have h : ∀ n v, (bigEndian n v).length = n := by
    intro n
    induction n with
    | zero => intro v; rfl
    | succ n ih => intro v; simp [bigEndian, ih]
  simp only [pad, List.length_append, List.length_cons, List.length_replicate, h]
  omega

end ChatRelay.Digest.Sha1
