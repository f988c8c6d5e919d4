import ChatRelay.Config.Error
import ChatRelay.Chat.Service
import ChatRelay.Hub.Basic

/-! Errors of the service as HTTP responses with a JSON body
`{"error": {"code", "message"}}`. In production every server-side message is
a fixed text for its kind; a validation message is always shown. -/
namespace ChatRelay.Api

open Chat Hub Config

inductive AppError where
  | config (e : ConfigError)
  | validation (message : String)
  | chat (e : ChatError)
  | hub (e : HubError)
  | internal (message : String)
  deriving DecidableEq, Repr

structure ErrorResponse where
  status : Nat
  code : String
  message : String
  deriving DecidableEq, Repr

namespace AppError

def display : AppError → String
  | .config e => "Configuration error: " ++ e.text
  | .validation m => "Validation error: " ++ m
  | .chat e => "Chat error: " ++ e.message
  | .hub e => "Hub error: " ++ e.message
  | .internal m => "Internal error: " ++ m

/-- The message a client sees: the detail, or in production the fixed text. -/
def shown (production : Bool) (detail generic : String) : String :=
  if production then generic else detail

/-- The response to an error, in production or not. -/
def response (production : Bool) : AppError → ErrorResponse
  | .config e => ⟨500, "CONFIG_ERROR", shown production e.text "Configuration error"⟩
  | .validation m => ⟨400, "VALIDATION_ERROR", m⟩
  | .chat e => ⟨500, "STORE_ERROR", shown production e.message "Message store temporarily unavailable"⟩
  | .hub .emptyUsername => ⟨400, "VALIDATION_ERROR", HubError.emptyUsername.message⟩
  | .hub e => ⟨503, "HUB_UNAVAILABLE", shown production e.message "Service shutting down"⟩
  | .internal m => ⟨500, "INTERNAL_ERROR", shown production m "Internal server error"⟩

end AppError

/-- The service runs in production when its run mode is exactly `production`
or `prod`. -/
def isProduction (runMode : Option String) : Bool :=
  runMode == some "production" || runMode == some "prod"

def ErrorResponse.body (r : ErrorResponse) : Json.Value :=
  .object [("error", .object [("code", .string r.code), ("message", .string r.message)])]

end ChatRelay.Api
