import ChatRelay.Text.Utf8
/-! The target of a request: an origin path with an optional query, `*`, or an
absolute target of scheme, authority and path; at most 65534 bytes. -/
namespace ChatRelay.Http

structure Target where
  path : String
  query : Option String
  deriving DecidableEq, Repr

namespace Target

def isPathByte (b : Nat) : Bool :=
  b = 0x21 || b = 0x22 || (0x24 ≤ b && b ≤ 0x3B) || b = 0x3D || (0x40 ≤ b && b ≤ 0x5F) ||
    (0x61 ≤ b && b ≤ 0x7A) || b = 0x7B || b = 0x7C || b = 0x7D || b = 0x7E || 0x80 ≤ b

def isQueryByte (b : Nat) : Bool :=
  b = 0x21 || (0x24 ≤ b && b ≤ 0x3B) || b = 0x3D || (0x3F ≤ b && b ≤ 0x7E) || 0x80 ≤ b

/-- Whether a byte may stand in an authority, `%` apart. -/
def isAuthorityByte (b : Nat) : Bool :=
  b = 0x21 || b = 0x23 || b = 0x24 || (0x26 ≤ b && b ≤ 0x3B) || b = 0x3D ||
    (0x3F ≤ b && b ≤ 0x5B) || b = 0x5D || b = 0x5F || (0x61 ≤ b && b ≤ 0x7A) || b = 0x7E

/-- Whether a byte may stand in a scheme: letters, digits, `+`, `-`, `.` and `~`. -/
def isSchemeByte (b : Nat) : Bool :=
  b = 0x2B || b = 0x2D || b = 0x2E || (0x30 ≤ b && b ≤ 0x39) || (0x41 ≤ b && b ≤ 0x5A) ||
    (0x61 ≤ b && b ≤ 0x7A) || b = 0x7E

/-- The text of UTF-8 bytes; a target cut only at ASCII bytes stays valid
UTF-8. -/
def text (bytes : List Nat) : String := Text.Utf8.decodeLossy (bytes.map Nat.toUInt8)

/-- The query after its `?`, up to a `#`, if every byte may stand there. -/
def queryPart : List Nat → Option (List Nat)
  | [] => some []
  | b :: rest =>
    if b = 0x23 then some []
    else if isQueryByte b then (queryPart rest).map (b :: ·)
    else none

def pathAndQuery : List Nat → Option (List Nat × Option (List Nat))
  | [] => some ([], none)
  | b :: rest =>
    if b = 0x3F then (queryPart rest).map fun q => ([], some q)
    else if b = 0x23 then some ([], none)
    else if isPathByte b then (pathAndQuery rest).map fun (p, q) => (b :: p, q)
    else none

/-- The target from a path and query, an empty path read as `/`. -/
def ofParts (parts : List Nat × Option (List Nat)) : Target :=
  ⟨if parts.1.isEmpty then "/" else text parts.1, parts.2.map text⟩

structure Seen where
  colons : Nat := 0
  openBracket : Bool := false
  closeBracket : Bool := false
  percent : Bool := false
  /-- The authority ends with an `@`. -/
  atLast : Bool := false

/-- The length of the authority at the front of the bytes: it ends before the
first `/`, `?` or `#`. -/
def authorityEnd : List Nat → Nat → Seen → Option (Nat × Seen)
  | [], n, s => some (n, s)
  | b :: rest, n, s =>
    if b = 0x2F || b = 0x3F || b = 0x23 then some (n, s)
    else if b = 0x3A then
      if 8 ≤ s.colons then none else authorityEnd rest (n + 1) { s with colons := s.colons + 1, atLast := false }
    else if b = 0x5B then
      if s.percent || s.openBracket then none
      else authorityEnd rest (n + 1) { s with openBracket := true, atLast := false }
    else if b = 0x5D then
      if !s.openBracket || s.closeBracket then none
      else authorityEnd rest (n + 1) { s with closeBracket := true, colons := 0, percent := false, atLast := false }
    else if b = 0x40 then authorityEnd rest (n + 1) { s with colons := 0, percent := false, atLast := true }
    else if b = 0x25 then authorityEnd rest (n + 1) { s with percent := true, atLast := false }
    else if isAuthorityByte b then authorityEnd rest (n + 1) { s with atLast := false }
    else none

def authority (bytes : List Nat) : Option Nat := do
  let (n, s) ← authorityEnd bytes 0 {}
  if s.openBracket != s.closeBracket || 1 < s.colons || (0 < n && s.atLast) || s.percent then none
  else some n

def schemeLength (bytes : List Nat) : Option Nat :=
  let name := bytes.takeWhile isSchemeByte
  match bytes.drop name.length with
  | 0x3A :: 0x2F :: 0x2F :: _ => if 3 < bytes.length then some name.length else none
  | _ => none

/-- Whether the bytes start with `prefix`, letters in any case. -/
def startsWithFolded (bytes : List Nat) (pre : String) : Bool :=
  let lower (b : Nat) := if 0x41 ≤ b && b ≤ 0x5A then b + 32 else b
  pre.length ≤ bytes.length && (bytes.take pre.length).map lower == pre.toList.map Char.toNat

/-- A target that is not a path: scheme, authority and path, or an authority alone. -/
def absolute (bytes : List Nat) : Option Target := do
  let skip :=
    if startsWithFolded bytes "http://" then some 7
    else if startsWithFolded bytes "https://" then some 8
    else (schemeLength bytes).map (· + 3)
  match skip with
  | none =>
    let n ← authority bytes
    if n = bytes.length then some ⟨"", none⟩ else none
  | some k =>
    if 64 + 3 < k then none else
    let rest := bytes.drop k
    let n ← authority rest
    if n = 0 then none
    else ofParts <$> pathAndQuery (rest.drop n)

def parse? (s : String) : Option Target :=
  let bytes := s.toUTF8.toList.map (·.toNat)
  if bytes.isEmpty || 65534 < bytes.length then none
  else if bytes = [0x2A] then some ⟨"*", none⟩
  else if bytes.head? = some 0x2F then ofParts <$> pathAndQuery bytes
  else absolute bytes

end Target

end ChatRelay.Http
