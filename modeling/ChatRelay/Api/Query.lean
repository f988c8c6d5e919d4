import ChatRelay.Http.Form

/-! Typed parameters from a query string: unknown names are skipped, a field given
twice is refused, and unsigned numbers are read as 64-bit. -/
namespace ChatRelay.Api

inductive NumberError where
  | empty
  | invalidDigit
  | tooLarge
  deriving DecidableEq, Repr

def NumberError.message : NumberError → String
  | .empty => "cannot parse integer from empty string"
  | .invalidDigit => "invalid digit found in string"
  | .tooLarge => "number too large to fit in target type"

def u64Max : Nat := 18446744073709551615

/-- The value of the digits after `acc`; a character that is not a digit
fails, and so does a value past 64 bits, whichever comes first. -/
def digitsValue : Nat → List Char → Except NumberError Nat
  | acc, [] => .ok acc
  | acc, c :: rest =>
    if !c.isDigit then .error .invalidDigit
    else
      let v := acc * 10 + (c.toNat - 48)
      if u64Max < v then .error .tooLarge else digitsValue v rest

def readUnsigned (s : String) : Except NumberError Nat :=
  match s.toList with
  | [] => .error .empty
  | ['+'] => .error .invalidDigit
  | '+' :: rest => digitsValue 0 rest
  | cs => digitsValue 0 cs

inductive QueryError where
  | duplicate (field : String)
  | badValue (field : String) (reason : String)
  deriving DecidableEq, Repr

def QueryError.message : QueryError → String
  | .duplicate f => "Failed to deserialize query string: duplicate field `" ++ f ++ "`"
  | .badValue f r => "Failed to deserialize query string: " ++ f ++ ": " ++ r

/-- The one optional field `name` of a query, read by `read`, after `seen`. -/
def optionalField {α : Type} (name : String) (read : String → Except String α) :
    Option α → List (String × String) → Except QueryError (Option α)
  | seen, [] => .ok seen
  | seen, (k, v) :: rest =>
    if k = name then
      if seen.isSome then .error (.duplicate name)
      else match read v with
        | .ok a => optionalField name read (some a) rest
        | .error r => .error (.badValue name r)
    else optionalField name read seen rest

def historyLimit (query : Option String) : Except QueryError (Option Nat) :=
  optionalField "limit" (fun v => (readUnsigned v).mapError NumberError.message) none
    (Http.Form.pairs (query.getD ""))

def socketUsername (query : Option String) : Except QueryError (Option String) :=
  optionalField "username" .ok none (Http.Form.pairs (query.getD ""))

end ChatRelay.Api
