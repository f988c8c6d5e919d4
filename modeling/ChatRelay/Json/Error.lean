import ChatRelay.Decimal.Shortest
import ChatRelay.Text.Quoted

/-! Errors of reading JSON and of decoding values from it, each with the line and
column of the byte where it arose. -/
namespace ChatRelay.Json

/-- The syntax errors of the reader. -/
inductive ErrorCode where
  | eofWhileParsingList
  | eofWhileParsingObject
  | eofWhileParsingString
  | eofWhileParsingValue
  | expectedColon
  | expectedListCommaOrEnd
  | expectedObjectCommaOrEnd
  | expectedSomeIdent
  | expectedSomeValue
  | invalidEscape
  | invalidNumber
  | numberOutOfRange
  | controlCharacterWhileParsingString
  | keyMustBeAString
  | loneLeadingSurrogateInHexEscape
  | trailingComma
  | trailingCharacters
  | unexpectedEndOfHexEscape
  | recursionLimitExceeded
  deriving DecidableEq, Repr

def ErrorCode.message : ErrorCode → String
  | .eofWhileParsingList => "EOF while parsing a list"
  | .eofWhileParsingObject => "EOF while parsing an object"
  | .eofWhileParsingString => "EOF while parsing a string"
  | .eofWhileParsingValue => "EOF while parsing a value"
  | .expectedColon => "expected `:`"
  | .expectedListCommaOrEnd => "expected `,` or `]`"
  | .expectedObjectCommaOrEnd => "expected `,` or `\x7d`"
  | .expectedSomeIdent => "expected ident"
  | .expectedSomeValue => "expected value"
  | .invalidEscape => "invalid escape"
  | .invalidNumber => "invalid number"
  | .numberOutOfRange => "number out of range"
  | .controlCharacterWhileParsingString => "control character (\\u0000-\\u001F) found while parsing a string"
  | .keyMustBeAString => "key must be a string"
  | .loneLeadingSurrogateInHexEscape => "lone leading surrogate in hex escape"
  | .trailingComma => "trailing comma"
  | .trailingCharacters => "trailing characters"
  | .unexpectedEndOfHexEscape => "unexpected end of hex escape"
  | .recursionLimitExceeded => "recursion limit exceeded"

def ErrorCode.isEof : ErrorCode → Bool
  | .eofWhileParsingList | .eofWhileParsingObject | .eofWhileParsingString
  | .eofWhileParsingValue => true
  | _ => false

inductive ErrorKind where
  | grammar (code : ErrorCode)
  | data (message : String)
  deriving DecidableEq, Repr

/-- An error, with the byte index it arose at once that is known. -/
structure Error where
  kind : ErrorKind
  index : Option Nat := none
  deriving DecidableEq, Repr

inductive Category where
  | grammar
  | data
  | eof
  deriving DecidableEq, Repr

namespace Error

def custom (message : String) : Error := ⟨.data message, none⟩

/-- The error with its position set to `i` if it had none. -/
def fixAt (e : Error) (i : Nat) : Error := { e with index := e.index.getD i }

def category (e : Error) : Category :=
  match e.kind with
  | .grammar c => if c.isEof then .eof else .grammar
  | .data _ => .data

def detail (e : Error) : String :=
  match e.kind with
  | .grammar c => c.message
  | .data m => m

/-- Line (from 1) and column (bytes since the last line feed) of byte index `i`
of `text`: `(line, column, bytes so far)` carried over the characters. -/
def lineColumn (text : String) (i : Nat) : Nat × Nat :=
  let step := fun (acc : Nat × Nat × Nat) (c : Char) =>
    let (line, col, seen) := acc
    if seen ≥ i then acc
    else if c = '\n' then (line + 1, 0, seen + 1)
    else (line, col + min c.utf8Size (i - seen), seen + c.utf8Size)
  let (line, col, _) := text.toList.foldl step (1, 0, 0)
  (line, col)

/-- The text of the error, with ` at line L column C` when its position in
`input` is known. -/
def render (e : Error) (input : String) : String :=
  match e.index with
  | none => e.detail
  | some i =>
    let (line, col) := lineColumn input i
    s!"{e.detail} at line {line} column {col}"

end Error

/-- A found value, as named in an "invalid type" or "invalid value" message. -/
inductive Unexpected where
  | bool (b : Bool)
  | unsigned (n : Nat)
  | signed (n : Int)
  | float (x : Float)
  | str (s : String)
  | unit
  | seq
  | map

def Unexpected.describe : Unexpected → String
  | .bool b => s!"boolean `{b}`"
  | .unsigned n => s!"integer `{n}`"
  | .signed n => s!"integer `{n}`"
  | .float x => "floating point `" ++ (Decimal.interchangeText? x).getD (Decimal.plainText x) ++ "`"
  | .str s => "string " ++ Text.quote s
  | .unit => "null"
  | .seq => "sequence"
  | .map => "map"

def invalidType (found : Unexpected) (expected : String) : Error :=
  .custom s!"invalid type: {found.describe}, expected {expected}"

def invalidValue (found : Unexpected) (expected : String) : Error :=
  .custom s!"invalid value: {found.describe}, expected {expected}"

def invalidLength (n : Nat) (expected : String) : Error :=
  .custom s!"invalid length {n}, expected {expected}"

def missingField (name : String) : Error := .custom ("missing field `" ++ name ++ "`")

def duplicateField (name : String) : Error := .custom ("duplicate field `" ++ name ++ "`")

end ChatRelay.Json
