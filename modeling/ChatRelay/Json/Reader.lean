import ChatRelay.Json.Error

/-! The lexical layer of the JSON reader: blanks, literals, strings, numbers and
skipping a whole value. The reader counts the bytes it has read, so every error
can name the byte index where it arose. -/
namespace ChatRelay.Json

/-- Where reading stands: the characters left, the bytes read so far, the
bytes of the whole text, and the nesting levels still allowed. -/
structure Cursor where
  rest : List Char
  pos : Nat
  size : Nat
  depth : Nat
  deriving DecidableEq, Repr

def Cursor.start (s : String) : Cursor := ⟨s.toList, 0, s.utf8ByteSize, 128⟩

abbrev Reader := StateT Cursor (Except Error)

/-- A number as read: unsigned, negative, or a double. -/
inductive Parsed where
  | nat (n : Nat)
  | neg (n : Int)
  | float (x : Float)

namespace Reader

def peek : Reader (Option Char) := do return (← get).rest.head?

def eat : Reader Unit := modify fun c =>
  match c.rest with
  | [] => c
  | ch :: rest => { c with rest := rest, pos := c.pos + ch.utf8Size }

def fail {α : Type} (code : ErrorCode) : Reader α := do
  throw ⟨.grammar code, some (← get).pos⟩

/-- Fail one byte past the current position, or at the end. -/
def failAhead {α : Type} (code : ErrorCode) : Reader α := do
  let c ← get
  throw ⟨.grammar code, some (min (c.pos + 1) c.size)⟩

/-- Fail after reading the first byte of the next character. -/
def failAfterByte {α : Type} (code : ErrorCode) : Reader α := do
  let c ← get
  throw ⟨.grammar code, some (min (c.pos + 1) c.size)⟩

/-- Fail with a data error at the current position unless it has one. -/
def failData {α : Type} (e : Error) : Reader α := do
  throw (e.fixAt (← get).pos)

def dropBlanks : List Char → List Char × Nat
  | c :: rest =>
    if c = ' ' ∨ c = '\n' ∨ c = '\t' ∨ c = '\r' then
      let (r, n) := dropBlanks rest
      (r, n + 1)
    else (c :: rest, 0)
  | [] => ([], 0)

def skipBlanks : Reader (Option Char) := do
  let c ← get
  let (rest, n) := dropBlanks c.rest
  set { c with rest := rest, pos := c.pos + n }
  return rest.head?

/-- Read the rest of a literal whose first letter was read. -/
def literal : List Char → Reader Unit
  | [] => pure ()
  | e :: es => do
    match ← peek with
    | none => fail .eofWhileParsingValue
    | some c => if c = e then do eat; literal es else failAfterByte .expectedSomeIdent

def hexValue? (c : Char) : Option Nat :=
  if '0' ≤ c ∧ c ≤ '9' then some (c.toNat - 48)
  else if 'a' ≤ c ∧ c ≤ 'f' then some (c.toNat - 87)
  else if 'A' ≤ c ∧ c ≤ 'F' then some (c.toNat - 55)
  else none

def hexEscape : Reader Nat := do
  let c ← get
  if c.size < c.pos + 4 then
    set { c with rest := [], pos := c.size }
    fail .eofWhileParsingString
  else
    match c.rest with
    | a :: b :: d :: e :: rest =>
      match hexValue? a, hexValue? b, hexValue? d, hexValue? e with
      | some w, some x, some y, some z =>
        set { c with rest := rest, pos := c.pos + 4 }
        return ((w * 16 + x) * 16 + y) * 16 + z
      | _, _, _, _ => throw ⟨.grammar .invalidEscape, some (c.pos + 4)⟩
    | _ => throw ⟨.grammar .invalidEscape, some (c.pos + 4)⟩

def pairChar (ch : Char) : Reader Unit := do
  match ← peek with
  | none => fail .eofWhileParsingString
  | some c => if c = ch then eat else failAfterByte .unexpectedEndOfHexEscape

/-- The character of a `\u` escape whose `u` was read; a leading surrogate
takes the trailing one of the next escape with it. -/
def unicodeEscape : Reader Char := do
  let n ← hexEscape
  if 0xDC00 ≤ n ∧ n ≤ 0xDFFF then fail .loneLeadingSurrogateInHexEscape
  else if n < 0xD800 ∨ 0xDBFF < n then return Char.ofNat n
  else
    pairChar '\\'
    pairChar 'u'
    let m ← hexEscape
    if m < 0xDC00 ∨ 0xDFFF < m then fail .loneLeadingSurrogateInHexEscape
    else return Char.ofNat ((n - 0xD800) * 1024 + (m - 0xDC00) + 0x10000)

def escape : Reader Char := do
  match ← peek with
  | none => fail .eofWhileParsingString
  | some c =>
    if c = 'u' then do eat; unicodeEscape
    else
      let short : Option Char :=
        if c = '"' then some '"' else if c = '\\' then some '\\' else if c = '/' then some '/'
        else if c = 'b' then some (Char.ofNat 8) else if c = 'f' then some (Char.ofNat 12)
        else if c = 'n' then some '\n' else if c = 'r' then some '\r'
        else if c = 't' then some '\t' else none
      match short with
      | some d => do eat; return d
      | none => failAfterByte .invalidEscape

/-- The rest of a string whose opening quote was read, given the characters
read so far in reverse. -/
def stringBody : Nat → List Char → Reader String
  | 0, _ => fail .eofWhileParsingString
  | fuel + 1, acc => do
    match ← peek with
    | none => fail .eofWhileParsingString
    | some c =>
      if c = '"' then do eat; return String.ofList acc.reverse
      else if c = '\\' then do
        eat
        let d ← escape
        stringBody fuel (d :: acc)
      else if c.toNat < 32 then do eat; fail .controlCharacterWhileParsingString
      else do eat; stringBody fuel (c :: acc)

def string : Reader String := do stringBody ((← get).rest.length + 1) []

def skipEscape : Reader Unit := do
  match ← peek with
  | none => fail .eofWhileParsingString
  | some c =>
    if c = 'u' then do eat; discard hexEscape
    else if c = '"' ∨ c = '\\' ∨ c = '/' ∨ c = 'b' ∨ c = 'f' ∨ c = 'n' ∨ c = 'r' ∨ c = 't' then eat
    else failAfterByte .invalidEscape

def skipStringBody : Nat → Reader Unit
  | 0 => fail .eofWhileParsingString
  | fuel + 1 => do
    match ← peek with
    | none => fail .eofWhileParsingString
    | some c =>
      if c = '"' then eat
      else if c = '\\' then do eat; skipEscape; skipStringBody fuel
      else if c.toNat < 32 then fail .controlCharacterWhileParsingString
      else do eat; skipStringBody fuel

def skipString : Reader Unit := do skipStringBody ((← get).rest.length + 1)

/-! ### Numbers -/

def u64Max : Nat := 18446744073709551615

def i32Max : Nat := 2147483647

def overflows (acc d limit : Nat) : Bool :=
  acc ≥ limit / 10 && (acc > limit / 10 || d > limit % 10)

def digit? (c : Char) : Option Nat := if '0' ≤ c ∧ c ≤ '9' then some (c.toNat - 48) else none

/-- `10^k` as a double, for `k ≤ 308`. -/
def pow10 (k : Nat) : Float := Float.ofScientific 1 false k

/-- `significand · 10^exponent` by one multiplication or division per step,
bringing far exponents within range by steps of 10^308; `none` when the
product overflows. -/
def scale : Nat → Float → Int → Option Float
  | 0, f, _ => some f
  | fuel + 1, f, e =>
    if e.natAbs ≤ 308 then
      if e ≥ 0 then
        let g := f * pow10 e.toNat
        if g.isInf then none else some g
      else some (f / pow10 e.natAbs)
    else if f == 0 then some f
    else if e ≥ 0 then none
    else scale fuel (f / pow10 308) (e + 308)

/-- The double for a significand and decimal exponent with its sign, failing
when it overflows. -/
def fromParts (positive : Bool) (significand : Nat) (exponent : Int) : Reader Float :=
  match scale 8 significand.toUInt64.toFloat exponent with
  | some f => pure (if positive then f else -f)
  | none => fail .numberOutOfRange

def clamp32 (e : Int) : Int := max (-2147483648) (min 2147483647 e)

def skipDigits : Nat → Reader Unit
  | 0 => pure ()
  | fuel + 1 => do
    match ← peek with
    | some c => if (digit? c).isSome then do eat; skipDigits fuel else pure ()
    | none => pure ()

/-- Exponent digits after the first, with an exponent beyond 2^31 − 1 giving
zero for a zero significand or a negative exponent and failing otherwise. -/
def exponentDigits : Nat → Bool → Nat → Int → Bool → Nat → Reader Float
  | 0, positive, sig, start, up, e => fromParts positive sig (clamp32 (if up then start + e else start - e))
  | fuel + 1, positive, sig, start, up, e => do
    match (← peek).bind digit? with
    | some d =>
      eat
      if overflows e d i32Max then
        if sig ≠ 0 ∧ up then fail .numberOutOfRange
        else do
          skipDigits ((← get).rest.length)
          return (if positive then 0.0 else -0.0)
      else exponentDigits fuel positive sig start up (e * 10 + d)
    | none => fromParts positive sig (clamp32 (if up then start + e else start - e))

def exponentPart (positive : Bool) (sig : Nat) (start : Int) : Reader Float := do
  eat
  let up ← do
    match ← peek with
    | some '+' => do eat; pure true
    | some '-' => do eat; pure false
    | _ => pure true
  match ← peek with
  | none => fail .eofWhileParsingValue
  | some c =>
    match digit? c with
    | some d => do eat; exponentDigits ((← get).rest.length + 1) positive sig start up d
    | none => failAfterByte .invalidNumber

def afterDigits (positive : Bool) (sig : Nat) (exp : Int) : Reader Float := do
  match ← peek with
  | some 'e' | some 'E' => exponentPart positive sig exp
  | _ => fromParts positive sig exp

/-- Fraction digits, counting the exponent down; digits past 2^64 − 1 are dropped. -/
def fractionDigits : Nat → Bool → Nat → Int → Nat → Reader Float
  | 0, positive, sig, exp, _ => fromParts positive sig exp
  | fuel + 1, positive, sig, exp, count => do
    match (← peek).bind digit? with
    | some d =>
      if overflows sig d u64Max then do
        skipDigits ((← get).rest.length)
        afterDigits positive sig exp
      else do
        eat
        fractionDigits fuel positive (sig * 10 + d) (exp - 1) (count + 1)
    | none =>
      if count = 0 then
        match ← peek with
        | some _ => failAhead .invalidNumber
        | none => failAhead .eofWhileParsingValue
      else afterDigits positive sig exp

def fraction (positive : Bool) (sig : Nat) (exp : Int) : Reader Float := do
  eat
  fractionDigits ((← get).rest.length + 1) positive sig exp 0

/-- Integer digits past 2^64 − 1: each raises the exponent. -/
def longDigits : Nat → Bool → Nat → Int → Reader Float
  | 0, positive, sig, exp => fromParts positive sig exp
  | fuel + 1, positive, sig, exp => do
    match ← peek with
    | some c =>
      if (digit? c).isSome then do eat; longDigits fuel positive sig (exp + 1)
      else if c = '.' then fraction positive sig exp
      else if c = 'e' ∨ c = 'E' then exponentPart positive sig exp
      else fromParts positive sig exp
    | none => fromParts positive sig exp

def numberEnd (positive : Bool) (sig : Nat) : Reader Parsed := do
  match ← peek with
  | some '.' => .float <$> fraction positive sig 0
  | some 'e' | some 'E' => .float <$> exponentPart positive sig 0
  | _ =>
    if positive then pure (.nat sig)
    else if 0 < sig ∧ sig ≤ 9223372036854775808 then pure (.neg (-(sig : Int)))
    else pure (.float (-(sig.toUInt64.toFloat)))

def integerDigits : Nat → Bool → Nat → Reader Parsed
  | 0, positive, sig => numberEnd positive sig
  | fuel + 1, positive, sig => do
    match (← peek).bind digit? with
    | some d =>
      if overflows sig d u64Max then do
        let c ← get
        .float <$> longDigits (c.rest.length + 1) positive sig 0
      else do eat; integerDigits fuel positive (sig * 10 + d)
    | none => numberEnd positive sig

def number (positive : Bool) : Reader Parsed := do
  match ← peek with
  | none => fail .eofWhileParsingValue
  | some c =>
    if c = '0' then do
      eat
      match (← peek).bind digit? with
      | some _ => failAhead .invalidNumber
      | none => numberEnd positive 0
    else
      match digit? c with
      | some d => do eat; integerDigits ((← get).rest.length + 1) positive d
      | none => failAfterByte .invalidNumber

def skipExponent : Reader Unit := do
  eat
  match ← peek with
  | some '+' | some '-' => eat
  | _ => pure ()
  match ← peek with
  | some c => if (digit? c).isSome then do eat; skipDigits ((← get).rest.length) else failAfterByte .invalidNumber
  | none => fail .invalidNumber

def skipNumber : Reader Unit := do
  match ← peek with
  | some '0' => do
    eat
    match (← peek).bind digit? with
    | some _ => failAhead .invalidNumber
    | none => pure ()
  | some c =>
    if (digit? c).isSome then do eat; skipDigits ((← get).rest.length)
    else failAfterByte .invalidNumber
  | none => fail .invalidNumber
  match ← peek with
  | some '.' => do
    eat
    match (← peek).bind digit? with
    | some _ => skipDigits ((← get).rest.length)
    | none => failAhead .invalidNumber
    match ← peek with
    | some 'e' | some 'E' => skipExponent
    | _ => pure ()
  | some 'e' | some 'E' => skipExponent
  | _ => pure ()

/-! ### Skipping a whole value -/

/-- After an item inside the open containers `frames` (innermost first): a
comma, or the closing bracket of the innermost one; `true` when all closed. -/
def closeFrames : Nat → List Char → Bool → Reader (Option (List Char))
  | 0, _, _ => fail .eofWhileParsingValue
  | fuel + 1, frames, acceptComma =>
    match frames with
    | [] => pure none
    | frame :: outer => do
      match ← skipBlanks with
      | some ',' =>
        if acceptComma then do eat; pure (some frames)
        else pure (some frames)
      | some c =>
        if (c = ']' ∧ frame = '[') ∨ (c = '}' ∧ frame = '{') then do
          eat
          if outer.isEmpty then pure none else closeFrames fuel outer true
        else if acceptComma then
          failAhead (if frame = '[' then .expectedListCommaOrEnd else .expectedObjectCommaOrEnd)
        else pure (some frames)
      | none => failAhead (if frame = '[' then .eofWhileParsingList else .eofWhileParsingObject)

def skipKey : Reader Unit := do
  match ← skipBlanks with
  | some '"' => eat
  | some _ => failAhead .keyMustBeAString
  | none => failAhead .eofWhileParsingObject
  skipString
  match ← skipBlanks with
  | some ':' => eat
  | some _ => failAhead .expectedColon
  | none => failAhead .eofWhileParsingObject

/-- Skip values inside the open containers `frames`, innermost first. -/
def skipLoop : Nat → List Char → Reader Unit
  | 0, _ => fail .eofWhileParsingValue
  | fuel + 1, frames => do
    let opened ← do
      match ← skipBlanks with
      | none => failAhead .eofWhileParsingValue
      | some c =>
        if c = 'n' then do eat; literal "ull".toList; pure none
        else if c = 't' then do eat; literal "rue".toList; pure none
        else if c = 'f' then do eat; literal "alse".toList; pure none
        else if c = '-' then do eat; skipNumber; pure none
        else if (digit? c).isSome then do skipNumber; pure none
        else if c = '"' then do eat; skipString; pure none
        else if c = '[' ∨ c = '{' then do eat; pure (some c)
        else failAhead .expectedSomeValue
    let next ← do
      match opened with
      | some frame =>
        -- an empty container closes at once
        match ← closeFrames fuel (frame :: frames) false with
        | none => pure none
        | some fs => pure (some fs)
      | none =>
        if frames.isEmpty then pure none else closeFrames fuel frames true
    match next with
    | none => pure ()
    | some fs => do
      if fs.head? = some '{' then skipKey
      skipLoop fuel fs

def skipValue : Reader Unit := do skipLoop (2 * (← get).rest.length + 2) []

end Reader

end ChatRelay.Json
