/-! The settings of the service, their defaults, and the rules a usable
configuration must meet. -/
namespace ChatRelay.Config

structure ServerConfig where
  host : String := "0.0.0.0"
  port : Nat := 8090
  deriving DecidableEq, Repr

/-- Message lifetime, sweeping and history. -/
structure ChatConfig where
  messageLifetimeSeconds : Nat := 60
  sweepIntervalSeconds : Nat := 10
  historyPageSize : Nat := 50
  deriving DecidableEq, Repr

/-- Queue sizes and the drain timeout of connections. -/
structure WebSocketConfig where
  outboundQueueSize : Nat := 32
  hubQueueSize : Nat := 1024
  writeDrainTimeoutMs : Nat := 5000
  deriving DecidableEq, Repr

structure StoreConfig where
  backend : String := "memory"
  deriving DecidableEq, Repr

/-- How to reach the database of a database store. -/
structure DatabaseConfig where
  url : String := "postgres://localhost:5432/chat_db"
  poolSize : Nat := 10
  connectTimeoutSeconds : Nat := 10
  idleTimeoutSeconds : Nat := 300
  table : String := "chat_messages"
  deriving DecidableEq, Repr

/-- Where traces go and how many are kept. -/
structure OtelConfig where
  enabled : Bool := false
  endpoint : String := "http://localhost:4317"
  serviceName : String := "ara-chat-service"
  samplingRatio : Float := 1.0

structure Settings where
  server : ServerConfig := {}
  chat : ChatConfig := {}
  websocket : WebSocketConfig := {}
  store : StoreConfig := {}
  database : DatabaseConfig := {}
  otel : OtelConfig := {}

namespace Settings

/-- The first rule the settings break, as its message: every lifetime,
interval, page size and queue size must be positive. -/
def validate (s : Settings) : Option String :=
  if s.chat.messageLifetimeSeconds = 0 then
    some "chat.message_lifetime_seconds must be greater than zero"
  else if s.chat.sweepIntervalSeconds = 0 then
    some "chat.sweep_interval_seconds must be greater than zero"
  else if s.chat.historyPageSize = 0 then
    some "chat.history_page_size must be greater than zero"
  else if s.websocket.outboundQueueSize = 0 ∨ s.websocket.hubQueueSize = 0 then
    some "websocket queue sizes must be greater than zero"
  else none

def serverAddr (s : Settings) : String := s.server.host ++ ":" ++ toString s.server.port

end Settings

end ChatRelay.Config
