import ChatRelay.Json.Error

/-! Why settings could not be had. -/
namespace ChatRelay.Config

/-- Why settings could not be had: a message, a missing property, a
configuration that may no longer change, or a value of the wrong kind, named as
found, with what was expected, the key where it stands and whether it came
from the environment. -/
inductive ConfigError where
  | message (text : String)
  | notFound (key : String)
  | frozen
  | mismatch (found expected : String) (key : Option String) (fromEnv : Bool)
  deriving DecidableEq, Repr

namespace ConfigError

/-- A key below a name: joined by a dot, unless it is empty or starts with a
position in brackets. -/
def joinKey (k rest : String) : String :=
  if rest.isEmpty || rest.startsWith "[" then k ++ rest else k ++ "." ++ rest

def underKey (k : String) : ConfigError → ConfigError
  | .mismatch f e key env => .mismatch f e (some (joinKey k (key.getD ""))) env
  | .notFound key => .notFound (joinKey k key)
  | e => e

def underIndex (i : Nat) : ConfigError → ConfigError
  | .mismatch f e key env => .mismatch f e (some ("[" ++ toString i ++ "]" ++ key.getD "")) env
  | .notFound key => .notFound ("[" ++ toString i ++ "]" ++ key)
  | e => e

def text : ConfigError → String
  | .message t => t
  | .notFound key => "configuration property " ++ Text.quote key ++ " not found"
  | .frozen => "configuration is frozen"
  | .mismatch f e key env =>
    "invalid type: " ++ f ++ ", expected " ++ e ++
      (match key with | some k => " for key `" ++ k ++ "`" | none => "") ++
      (if env then " in the environment" else "")

end ConfigError

end ChatRelay.Config
