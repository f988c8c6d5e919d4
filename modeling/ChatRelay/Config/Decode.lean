import ChatRelay.Config.Settings
import ChatRelay.Json.Value
import ChatRelay.Json.Error

/-! Reading settings from a JSON value: a record from an object in key order or
from an array in field order, a missing field keeping its default. -/
namespace ChatRelay.Config

open Json

abbrev Decoded := Except Json.Error

/-- How a found value is named in errors. -/
def unexpectedOf : Json.Value → Unexpected
  | .null => .unit
  | .bool b => .bool b
  | .number (.nat n) => .unsigned n
  | .number (.neg n) => .signed n
  | .number (.float x) => .float x
  | .string s => .str s
  | .array _ => .seq
  | .object _ => .map

/-- An unsigned integer below `2 ^ bits`, named `name` in errors. -/
def unsignedOf (bits : Nat) (name : String) : Json.Value → Decoded Nat
  | .number (.nat n) => if n < Nat.pow 2 bits then .ok n else .error (invalidValue (.unsigned n) name)
  | .number (.neg n) => .error (invalidValue (.signed n) name)
  | v => .error (invalidType (unexpectedOf v) name)

def floatOf : Json.Value → Decoded Float
  | .number (.nat n) => .ok n.toFloat
  | .number (.neg n) => .ok (Float.ofInt n)
  | .number (.float x) => .ok x
  | v => .error (invalidType (unexpectedOf v) "f64")

def textOf : Json.Value → Decoded String
  | .string s => .ok s
  | v => .error (invalidType (unexpectedOf v) "a string")

def flagOf : Json.Value → Decoded Bool
  | .bool b => .ok b
  | v => .error (invalidType (unexpectedOf v) "a boolean")

/-- A field of a record of type `R`: its key, and how a value sets it. -/
structure Field (R : Type) where
  key : String
  set : Json.Value → R → Decoded R

/-- Decode the record named `name` with the given fields, starting from its
defaults. -/
def record {R : Type} (name : String) (fields : List (Field R)) (init : R) : Json.Value → Decoded R
  | .object members =>
    members.foldlM (fun r m =>
      match fields.find? (·.key == m.1) with
      | some f => f.set m.2 r
      | none => pure r) init
  | .array items => do
    let r ← (fields.zip items).foldlM (fun r p => p.1.set p.2 r) init
    if fields.length < items.length then throw (invalidLength items.length "fewer elements in array")
    pure r
  | v => .error (invalidType (unexpectedOf v) ("struct " ++ name))

def serverOf : Json.Value → Decoded ServerConfig :=
  record "ServerConfig" [
    ⟨"host", fun v r => return { r with host := ← textOf v }⟩,
    ⟨"port", fun v r => return { r with port := ← unsignedOf 16 "u16" v }⟩] {}

def chatOf : Json.Value → Decoded ChatConfig :=
  record "ChatConfig" [
    ⟨"message_lifetime_seconds", fun v r => return { r with messageLifetimeSeconds := ← unsignedOf 64 "u64" v }⟩,
    ⟨"sweep_interval_seconds", fun v r => return { r with sweepIntervalSeconds := ← unsignedOf 64 "u64" v }⟩,
    ⟨"history_page_size", fun v r => return { r with historyPageSize := ← unsignedOf 64 "usize" v }⟩] {}

def websocketOf : Json.Value → Decoded WebSocketConfig :=
  record "WebSocketConfig" [
    ⟨"outbound_queue_size", fun v r => return { r with outboundQueueSize := ← unsignedOf 64 "usize" v }⟩,
    ⟨"hub_queue_size", fun v r => return { r with hubQueueSize := ← unsignedOf 64 "usize" v }⟩,
    ⟨"write_drain_timeout_ms", fun v r => return { r with writeDrainTimeoutMs := ← unsignedOf 64 "u64" v }⟩] {}

def storeOf : Json.Value → Decoded StoreConfig :=
  record "StoreConfig" [⟨"backend", fun v r => return { r with backend := ← textOf v }⟩] {}

def databaseOf : Json.Value → Decoded DatabaseConfig :=
  record "DatabaseConfig" [
    ⟨"url", fun v r => return { r with url := ← textOf v }⟩,
    ⟨"pool_size", fun v r => return { r with poolSize := ← unsignedOf 32 "u32" v }⟩,
    ⟨"connect_timeout_seconds", fun v r => return { r with connectTimeoutSeconds := ← unsignedOf 32 "u32" v }⟩,
    ⟨"idle_timeout_seconds", fun v r => return { r with idleTimeoutSeconds := ← unsignedOf 32 "u32" v }⟩,
    ⟨"table", fun v r => return { r with table := ← textOf v }⟩] {}

def otelOf : Json.Value → Decoded OtelConfig :=
  record "OtelConfig" [
    ⟨"enabled", fun v r => return { r with enabled := ← flagOf v }⟩,
    ⟨"endpoint", fun v r => return { r with endpoint := ← textOf v }⟩,
    ⟨"service_name", fun v r => return { r with serviceName := ← textOf v }⟩,
    ⟨"sampling_ratio", fun v r => return { r with samplingRatio := ← floatOf v }⟩] {}

def Settings.ofJson : Json.Value → Decoded Settings :=
  record "Settings" [
    ⟨"server", fun v r => return { r with server := ← serverOf v }⟩,
    ⟨"chat", fun v r => return { r with chat := ← chatOf v }⟩,
    ⟨"websocket", fun v r => return { r with websocket := ← websocketOf v }⟩,
    ⟨"store", fun v r => return { r with store := ← storeOf v }⟩,
    ⟨"database", fun v r => return { r with database := ← databaseOf v }⟩,
    ⟨"otel", fun v r => return { r with otel := ← otelOf v }⟩] {}

end ChatRelay.Config
