import ChatRelay.Json.Parse

/-! Decoding typed values straight from JSON text, reporting a value of the wrong
type just after what was read of it. -/
namespace ChatRelay.Json

/-- The value a number names in an error. -/
def Parsed.unexpected : Parsed → Unexpected
  | .nat n => .unsigned n
  | .neg n => .signed n
  | .float x => .float x

namespace Reader

/-- Fail at the next value, which is not what was `expected`. -/
def foundInstead {α : Type} (expected : String) : Reader α := do
  let found : Unexpected ← match ← peek with
    | some 'n' => do eat; literal "ull".toList; pure .unit
    | some 't' => do eat; literal "rue".toList; pure (.bool true)
    | some 'f' => do eat; literal "alse".toList; pure (.bool false)
    | some '-' => do eat; Parsed.unexpected <$> number false
    | some '"' => do eat; .str <$> string
    | some '[' => pure .seq
    | some '{' => pure .map
    | some c =>
      if (digit? c).isSome then Parsed.unexpected <$> number true
      else failAhead .expectedSomeValue
    | none => failAhead .expectedSomeValue
  failData (invalidType found expected)

/-- A string value passed to `visit`, which may refuse it. -/
def stringWith {α : Type} (expected : String) (visit : String → Except Error α) : Reader α := do
  match ← skipBlanks with
  | none => failAhead .eofWhileParsingValue
  | some '"' => do
    eat
    let s ← string
    match visit s with
    | .ok a => pure a
    | .error e => failData e
  | some _ => foundInstead expected

def text : Reader String := stringWith "a string" pure

end Reader

def decodeWith {α : Type} (body : Reader α) (s : String) : Except Error α :=
  (do let v ← body; Reader.finish; pure v).run' (Cursor.start s)

end ChatRelay.Json
