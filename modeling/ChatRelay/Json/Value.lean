import ChatRelay.Decimal.Shortest

/-! JSON values, with the three kinds of number a reader tells apart, and their
compact text. -/
namespace ChatRelay.Json

inductive Number where
  /-- An integer from 0 to 2^64 − 1. -/
  | nat (n : Nat)
  /-- A negative integer down to −2^63. -/
  | neg (n : Int)
  /-- A double. -/
  | float (x : Float)
  deriving Inhabited

/-- A JSON value; objects keep their members in order. -/
inductive Value where
  | null
  | bool (b : Bool)
  | number (n : Number)
  | string (s : String)
  | array (items : List Value)
  | object (members : List (String × Value))
  deriving Inhabited

namespace Value

def ofNat (n : Nat) : Value := .number (.nat n)

def ofInt (n : Int) : Value := if n < 0 then .number (.neg n) else .number (.nat n.toNat)

def field? (v : Value) (key : String) : Option Value :=
  match v with
  | .object ms => (ms.find? (·.1 == key)).map (·.2)
  | _ => none

end Value

def hexDigit (n : Nat) : Char :=
  if n < 10 then Char.ofNat (48 + n) else Char.ofNat (87 + n)

def escapeChar (c : Char) : List Char :=
  if c = '"' then ['\\', '"']
  else if c = '\\' then ['\\', '\\']
  else if c = '\n' then ['\\', 'n']
  else if c = '\t' then ['\\', 't']
  else if c = '\r' then ['\\', 'r']
  else if c.toNat = 8 then ['\\', 'b']
  else if c.toNat = 12 then ['\\', 'f']
  else if c.toNat < 32 then ['\\', 'u', '0', '0', hexDigit (c.toNat / 16), hexDigit (c.toNat % 16)]
  else [c]

def quote (s : String) : String :=
  String.ofList ('"' :: s.toList.flatMap escapeChar ++ ['"'])

def Number.render : Number → String
  | .nat n => toString n
  | .neg n => toString n
  | .float x => (Decimal.interchangeText? x).getD "null"

mutual

def Value.render : Value → String
  | .null => "null"
  | .bool b => if b then "true" else "false"
  | .number n => n.render
  | .string s => quote s
  | .array items => "[" ++ renderItems items ++ "]"
  | .object members => "\x7b" ++ renderMembers members ++ "\x7d"

def renderItems : List Value → String
  | [] => ""
  | [v] => v.render
  | v :: rest => v.render ++ "," ++ renderItems rest

/-- Object members as `"key":value`, comma separated. -/
def renderMembers : List (String × Value) → String
  | [] => ""
  | [(k, v)] => quote k ++ ":" ++ v.render
  | (k, v) :: rest => quote k ++ ":" ++ v.render ++ "," ++ renderMembers rest

end

end ChatRelay.Json
