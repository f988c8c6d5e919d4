/-! 128-bit identifiers in the RFC 4122 text forms: four forms read, the hyphenated
lowercase one written, and a text that is not read diagnosed in a fixed order. -/
namespace ChatRelay

/-- A 128-bit identifier. -/
structure Uuid where
  value : Nat
  lt : value < Nat.pow 2 128
  deriving DecidableEq, Repr

namespace Uuid

def nil : Uuid := ⟨0, by decide⟩

instance : Inhabited Uuid := ⟨nil⟩

/-- The identifier of a number's low 128 bits. -/
def ofNat (n : Nat) : Uuid := ⟨n % Nat.pow 2 128, Nat.mod_lt _ (by decide)⟩

/-- The ids a random generator yields, draw after draw: `draw n` is the
`n`-th. Nothing is assumed of them. -/
structure Source where
  draw : Nat → Uuid
  drawn : Nat := 0

def Source.next (g : Source) : Uuid × Source := (g.draw g.drawn, { g with drawn := g.drawn + 1 })

def hexChar (n : Nat) : Char :=
  if n < 10 then Char.ofNat (48 + n) else Char.ofNat (87 + n)

/-- The `width` lowest hex digits of `n`, most significant first. -/
def hexDigits (width n : Nat) : List Char :=
  (List.range width).reverse.map fun i => hexChar (n / Nat.pow 16 i % 16)

def hyphenated (u : Uuid) : String :=
  let d := hexDigits 32 u.value
  String.ofList (d.take 8 ++ '-' :: (d.drop 8).take 4 ++ '-' :: (d.drop 12).take 4 ++
    '-' :: (d.drop 16).take 4 ++ '-' :: d.drop 20)

def hexValue? (c : Char) : Option Nat :=
  if '0' ≤ c ∧ c ≤ '9' then some (c.toNat - 48)
  else if 'a' ≤ c ∧ c ≤ 'f' then some (c.toNat - 87)
  else if 'A' ≤ c ∧ c ≤ 'F' then some (c.toNat - 55)
  else none

def ofHex? (cs : List Char) : Option Nat :=
  cs.foldlM (fun acc c => (hexValue? c).map (acc * 16 + ·)) 0

inductive ParseError where
  /-- A character that is neither a hex digit nor a hyphen, at a byte index. -/
  | character (c : Char) (index : Nat)
  /-- A text longer than any form, or a bare hyphen-free text whose length is
  not 32. -/
  | length (len : Nat)
  /-- A text whose hyphens do not make five groups. -/
  | groupCount (count : Nat)
  /-- A group of the wrong length. -/
  | groupLength (group len : Nat)
  deriving DecidableEq, Repr

/-- The length each of the five groups must have. -/
def groupWidths : List Nat := [8, 4, 4, 4, 12]

/-- The byte index at which each group starts in the hyphenated form. -/
def groupStarts : List Nat := [0, 9, 14, 19, 24]

def ParseError.message : ParseError → String
  | .character c i => s!"invalid character: found `{c}` at {i}"
  | .length n => s!"invalid length: found {n}"
  | .groupCount n => s!"invalid group count: expected 5, found {n}"
  | .groupLength g n => s!"invalid group length in group {g}: expected {groupWidths.getD g 0}, found {n}"

/-- The body of a hyphenated form, if its hyphens stand at 8, 13, 18 and 23. -/
def ofHyphenated? (cs : List Char) : Option Uuid :=
  if cs.length = 36 ∧ cs[8]? = some '-' ∧ cs[13]? = some '-' ∧ cs[18]? = some '-' ∧
      cs[23]? = some '-' then
    (ofHex? (cs.filter (· ≠ '-'))).bind fun v =>
      if (cs.filter (· = '-')).length = 4 then some (ofNat v) else none
  else none

def urnStart : List Char := "urn:uuid:".toList

def startsWithUrn (cs : List Char) : Bool :=
  urnStart.length ≤ cs.length && (cs.take urnStart.length).map Char.toLower == urnStart

/-- Where the groups of a text that is not read are looked for. -/
structure Frame where
  /-- The characters between the braces or after the prefix, if any. -/
  body : List Char
  /-- What is added to a byte index of the body to report it. -/
  shift : Nat
  /-- Whether the text had neither braces nor prefix. -/
  bare : Bool

def braced (cs : List Char) : Bool :=
  2 ≤ cs.length && cs.head? == some '\x7b' && cs.getLast? == some '\x7d'

/-- The frame of a text of `n` bytes: as the hyphenated form of its length if
it has one, else without any braces or prefix it has. -/
def frame (cs : List Char) (n : Nat) : Frame :=
  if n = 36 then ⟨cs, 0, false⟩
  else if n = 38 && braced cs then ⟨(cs.drop 1).dropLast, 0, false⟩
  else if n = 45 && startsWithUrn cs then ⟨cs.drop urnStart.length, 0, false⟩
  else if braced cs then ⟨(cs.drop 1).dropLast, 1, false⟩
  else if startsWithUrn cs then ⟨cs.drop urnStart.length, urnStart.length, false⟩
  else ⟨cs, 0, true⟩

/-- The first character that is neither a hex digit nor a hyphen, with its
byte index, and the byte indices of the first four hyphens and their count. -/
def scan : List Char → Nat → List Nat → Nat → Option (Char × Nat) × List Nat × Nat
  | [], _, bounds, count => (none, bounds, count)
  | c :: rest, i, bounds, count =>
    if c = '-' then
      scan rest (i + 1) (if count < 4 then bounds ++ [i] else bounds) (count + 1)
    else if (hexValue? c).isSome then scan rest (i + c.utf8Size) bounds count
    else (some (c, i), bounds, count)

def diagnose (s : String) : ParseError :=
  if 45 < s.utf8ByteSize then .length s.utf8ByteSize
  else
    let f := frame s.toList s.utf8ByteSize
    match scan f.body 0 [] 0 with
    | (some (c, i), _, _) => .character c (i + f.shift)
    | (none, bounds, count) =>
      if count = 0 ∧ f.bare then .length s.utf8ByteSize
      else if count ≠ 4 then .groupCount (count + 1)
      else
        let wrong := (List.range 4).find? fun g => bounds.getD g 0 + 1 ≠ groupStarts.getD (g + 1) 0
        match wrong with
        | some g => .groupLength g (bounds.getD g 0 - groupStarts.getD g 0)
        | none => .groupLength 4 (s.utf8ByteSize - 24)

def parse (s : String) : Except ParseError Uuid :=
  let cs := s.toList
  let n := s.utf8ByteSize
  let read? : Option Uuid :=
    if n = 32 then (ofHex? cs).map ofNat
    else if n = 36 then ofHyphenated? cs
    else if n = 38 && braced cs then
      ofHyphenated? (cs.drop 1).dropLast
    else if n = 45 ∧ startsWithUrn cs then ofHyphenated? (cs.drop urnStart.length)
    else none
  match read? with
  | some u => .ok u
  | none => .error (diagnose s)

def parseError? (s : String) : Option ParseError :=
  match parse s with
  | .ok _ => none
  | .error e => some e

end Uuid

end ChatRelay
