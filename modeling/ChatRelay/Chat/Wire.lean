import ChatRelay.Chat.Message
import ChatRelay.Json.Decode
import ChatRelay.Time.Rfc3339.Parse

/-! Reading a message from its wire text: an object with the five keys in any
order, or an array of the five values in order. -/
namespace ChatRelay.Chat

open Json Json.Reader Time

/-- The name of the record in errors about its shape. -/
def recordName : String := "struct ChatMessage"

def idValue : Reader Uuid :=
  stringWith "a formatted UUID string" fun s =>
    match Uuid.parse s with
    | .ok u => .ok u
    | .error e => .error (.custom ("UUID parsing failed: " ++ e.message))

def instantValue : Reader Instant :=
  stringWith "an RFC 3339 formatted date and time string" fun s =>
    match Instant.parseRfc3339 s with
    | .ok t => .ok t
    | .error e => .error (.custom e.message)

structure Slots where
  id : Option Uuid := none
  username : Option String := none
  text : Option String := none
  createdAt : Option Instant := none
  expiresAt : Option Instant := none

/-- The message once every field is present, else the first one missing. -/
def Slots.finish (s : Slots) : Except Error Message :=
  match s.id, s.username, s.text, s.createdAt, s.expiresAt with
  | none, _, _, _, _ => .error (missingField "id")
  | _, none, _, _, _ => .error (missingField "username")
  | _, _, none, _, _ => .error (missingField "message")
  | _, _, _, none, _ => .error (missingField "created_at")
  | _, _, _, _, none => .error (missingField "expires_at")
  | some i, some u, some t, some c, some e => .ok ⟨i, u, t, c, e⟩

/-- The value of a field not yet seen, or the duplicate-field error. -/
def slot {α : Type} (name : String) (seen : Option α) (value : Reader α) :
    Reader (Except Error α) := do
  if seen.isSome then return .error (duplicateField name)
  colon
  .ok <$> value

/-- The members of an object after its opening brace, within `fuel` steps.
Errors of the text are thrown; errors of the record are returned. -/
def members : Nat → Bool → Slots → Reader (Except Error Message)
  | 0, _, _ => fail .eofWhileParsingObject
  | fuel + 1, first, s => do
    match ← keyStart first with
    | none => pure s.finish
    | some "id" =>
      match ← slot "id" s.id idValue with
      | .ok v => members fuel false { s with id := some v }
      | .error e => pure (.error e)
    | some "username" =>
      match ← slot "username" s.username text with
      | .ok v => members fuel false { s with username := some v }
      | .error e => pure (.error e)
    | some "message" =>
      match ← slot "message" s.text text with
      | .ok v => members fuel false { s with text := some v }
      | .error e => pure (.error e)
    | some "created_at" =>
      match ← slot "created_at" s.createdAt instantValue with
      | .ok v => members fuel false { s with createdAt := some v }
      | .error e => pure (.error e)
    | some "expires_at" =>
      match ← slot "expires_at" s.expiresAt instantValue with
      | .ok v => members fuel false { s with expiresAt := some v }
      | .error e => pure (.error e)
    | some _ => do
      colon
      skipValue
      members fuel false s

def element {α : Type} (first : Bool) (value : Reader α) : Reader (Option α) := do
  if ← itemStart first then some <$> value else pure none

/-- The error of an array that ended after `n` elements. -/
def endedAfter (n : Nat) : Except Error Message :=
  .error (invalidLength n (recordName ++ " with 5 elements"))

def elements : Reader (Except Error Message) := do
  let some i ← element true idValue | return endedAfter 0
  let some u ← element false text | return endedAfter 1
  let some t ← element false text | return endedAfter 2
  let some c ← element false instantValue | return endedAfter 3
  let some e ← element false instantValue | return endedAfter 4
  pure (.ok ⟨i, u, t, c, e⟩)

/-- The record's error, placed after the closing bracket has been looked for;
else the closing bracket's error; else the message. -/
def settle (r : Except Error Message) (closing : Option Error) : Reader Message :=
  match r, closing with
  | .error e, _ => failData e
  | .ok _, some e => throw e
  | .ok m, none => pure m

def messageValue : Reader Message := do
  match ← skipBlanks with
  | none => failAhead .eofWhileParsingValue
  | some '[' => do
    enter
    eat
    let r ← elements
    leave
    settle r (← closeArray)
  | some '{' => do
    enter
    eat
    let r ← members ((← get).rest.length + 1) true {}
    leave
    settle r (← closeObject)
  | some _ => foundInstead recordName

def Message.ofWire (s : String) : Except Error Message := decodeWith messageValue s

end ChatRelay.Chat
