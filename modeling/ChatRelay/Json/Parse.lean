import ChatRelay.Json.Reader
import ChatRelay.Json.Value

/-! Reading a whole JSON text into a value, object members sorted by key with a
later member replacing an earlier one. -/
namespace ChatRelay.Json

namespace Reader

def enter : Reader Unit := do
  let c ← get
  if c.depth ≤ 1 then failAhead .recursionLimitExceeded
  else set { c with depth := c.depth - 1 }

def leave : Reader Unit := modify fun c => { c with depth := c.depth + 1 }

def Parsed.toValue : Parsed → Value
  | .nat n => .number (.nat n)
  | .neg n => .number (.neg n)
  | .float x => .number (.float x)

/-- Insert a member into members sorted by key, replacing one with the same key. -/
def insertMember (k : String) (v : Value) : List (String × Value) → List (String × Value)
  | [] => [(k, v)]
  | (k', v') :: rest =>
    if k = k' then (k, v) :: rest
    else if k < k' then (k, v) :: (k', v') :: rest
    else (k', v') :: insertMember k v rest

/-- Before an array item: `none` at the closing bracket, otherwise ready to
read the item. -/
def itemStart (first : Bool) : Reader Bool := do
  let c? ← skipBlanks
  let next : Option (Option Char) ← do
    match c? with
    | some ']' => pure none
    | some ',' =>
      if first then pure (some (some ','))
      else do eat; pure (some (← skipBlanks))
    | some c => if first then pure (some (some c)) else failAhead .expectedListCommaOrEnd
    | none => failAhead .eofWhileParsingList
  match next with
  | none => pure false
  | some (some ']') => failAhead .trailingComma
  | some (some _) => pure true
  | some none => failAhead .eofWhileParsingValue

/-- The error `code` one byte past the current position, or at the end. -/
def errorAhead (code : ErrorCode) : Reader Error := do
  let c ← get
  pure ⟨.grammar code, some (min (c.pos + 1) c.size)⟩

/-- The closing bracket of an array, eaten when it is next; otherwise the error
that stands there, for the caller to report unless an earlier one wins. -/
def closeArray : Reader (Option Error) := do
  match ← skipBlanks with
  | some ']' => do eat; pure none
  | some ',' => do
    eat
    match ← skipBlanks with
    | some ']' => some <$> errorAhead .trailingComma
    | _ => some <$> errorAhead .trailingCharacters
  | some _ => some <$> errorAhead .trailingCharacters
  | none => some <$> errorAhead .eofWhileParsingList

def arrayEnd : Reader Unit := do
  match ← closeArray with
  | some e => throw e
  | none => pure ()

/-- Before an object member: `none` at the closing brace, otherwise its key. -/
def keyStart (first : Bool) : Reader (Option String) := do
  let c? ← skipBlanks
  let next : Option (Option Char) ← do
    match c? with
    | some '}' => pure none
    | some ',' =>
      if first then pure (some (some ','))
      else do eat; pure (some (← skipBlanks))
    | some c => if first then pure (some (some c)) else failAhead .expectedObjectCommaOrEnd
    | none => failAhead .eofWhileParsingObject
  match next with
  | none => pure none
  | some (some '"') => do eat; some <$> string
  | some (some '}') => failAhead .trailingComma
  | some (some _) => failAhead .keyMustBeAString
  | some none => failAhead .eofWhileParsingValue

def colon : Reader Unit := do
  match ← skipBlanks with
  | some ':' => eat
  | some _ => failAhead .expectedColon
  | none => failAhead .eofWhileParsingObject

/-- The closing brace of an object, eaten when it is next; otherwise the error
that stands there, for the caller to report unless an earlier one wins. -/
def closeObject : Reader (Option Error) := do
  match ← skipBlanks with
  | some '}' => do eat; pure none
  | some ',' => some <$> errorAhead .trailingComma
  | some _ => some <$> errorAhead .trailingCharacters
  | none => some <$> errorAhead .eofWhileParsingObject

def objectEnd : Reader Unit := do
  match ← closeObject with
  | some e => throw e
  | none => pure ()

mutual

def value : Nat → Reader Value
  | 0 => fail .eofWhileParsingValue
  | fuel + 1 => do
    match ← skipBlanks with
    | none => failAhead .eofWhileParsingValue
    | some c =>
      if c = 'n' then do eat; literal "ull".toList; pure .null
      else if c = 't' then do eat; literal "rue".toList; pure (.bool true)
      else if c = 'f' then do eat; literal "alse".toList; pure (.bool false)
      else if c = '-' then do eat; Parsed.toValue <$> number false
      else if (digit? c).isSome then Parsed.toValue <$> number true
      else if c = '"' then do eat; .string <$> string
      else if c = '[' then do
        enter
        eat
        let items ← arrayItems fuel true []
        leave
        arrayEnd
        pure (.array items)
      else if c = '{' then do
        enter
        eat
        let members ← objectMembers fuel true []
        leave
        objectEnd
        pure (.object members)
      else failAhead .expectedSomeValue

def arrayItems : Nat → Bool → List Value → Reader (List Value)
  | 0, _, _ => fail .eofWhileParsingList
  | fuel + 1, first, acc => do
    if ← itemStart first then
      let v ← value fuel
      arrayItems fuel false (v :: acc)
    else pure acc.reverse

/-- Object members, sorted by key. -/
def objectMembers : Nat → Bool → List (String × Value) → Reader (List (String × Value))
  | 0, _, _ => fail .eofWhileParsingObject
  | fuel + 1, first, acc => do
    match ← keyStart first with
    | none => pure acc
    | some k => do
      colon
      let v ← value fuel
      objectMembers fuel false (insertMember k v acc)

end

def finish : Reader Unit := do
  match ← skipBlanks with
  | some _ => failAhead .trailingCharacters
  | none => pure ()

end Reader

def parse (s : String) : Except Error Value :=
  let c := Cursor.start s
  (do let v ← Reader.value (2 * c.rest.length + 2); Reader.finish; pure v).run' c

end ChatRelay.Json
