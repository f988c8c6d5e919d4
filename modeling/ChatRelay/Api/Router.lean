import ChatRelay.Http.Upgrade
import ChatRelay.Api.Query
import ChatRelay.Api.Error
import ChatRelay.Api.Metrics
import ChatRelay.Hub.Switchboard
import ChatRelay.Config.Settings
import ChatRelay.Time.Clock

/-! The HTTP interface of the service: five paths served to GET and HEAD, CORS
preflights for OPTIONS, 405 for another method on a known path and 404
otherwise. -/
namespace ChatRelay.Api

open Http Chat Hub Config Time

/-- The running service as the HTTP interface sees it. -/
structure App where
  settings : Settings
  /-- The process environment's `RUN_MODE`, if set. -/
  runMode : Option String
  service : Service
  hub : Switchboard
  clock : Clock
  /-- The random ids drawn for the sessions made and the messages the memory
  store saves. -/
  ids : Uuid.Source
  startedAt : Instant
  activity : Activity := {}

inductive StartError where
  | chat (e : ChatError)
  | hub (e : HubError)
  deriving DecidableEq, Repr

/-- Start the service over `store`: the chat service with the configured
lifetime, then the hub with the configured mailbox. -/
def App.start (settings : Settings) (runMode : Option String) (ids : Uuid.Source) (store : Store.Backend) :
    Except StartError App := do
  let service ← (Service.new store (Duration.ofSeconds settings.chat.messageLifetimeSeconds)).mapError .chat
  let hub ← (Switchboard.start settings.websocket.hubQueueSize 0 false).mapError .hub
  let (startedAt, clock) := Clock.start.read
  pure { settings, runMode, service, hub, clock, ids, startedAt }

inductive Route where
  | health
  | stats
  | metrics
  | socket
  | messages
  deriving DecidableEq, Repr

def Route.ofPath? : String → Option Route
  | "/health" => some .health
  | "/stats" => some .stats
  | "/metrics" => some .metrics
  | "/api/ws" => some .socket
  | "/api/messages" => some .messages
  | _ => none

def version : String := "1.0.0"

/-- What a request leads to: a response, and for an accepted WebSocket
handshake the user whose session the connection becomes. -/
structure Reply where
  response : Response
  session : Option String := none

/-- The response to an error of the service, redacted when the process runs
in production. -/
def errorResponse (runMode : Option String) (e : AppError) : Response :=
  let r := e.response (isProduction runMode)
  Response.json r.status r.body.render

def okJson (v : Json.Value) : Response := Response.json 200 v.render

def statsJson (st : Stats) : Json.Value :=
  .object [("sessions", .ofNat st.sessions), ("unique_users", .ofNat st.uniqueUsers),
    ("broadcasts", .ofNat st.broadcasts), ("frames_delivered", .ofNat st.framesDelivered),
    ("evictions", .ofNat st.evictions)]

/-- Whole seconds from one instant to a later one. -/
def wholeSecondsBetween (a b : Instant) : Nat :=
  (((b.seconds - a.seconds) * Instant.nanosPerSecond + b.nanos - a.nanos) / Instant.nanosPerSecond).toNat

namespace App

def now (app : App) : Instant × App :=
  let (t, clock) := app.clock.read
  (t, { app with clock := clock })

/-- The health report: healthy while the hub answers. -/
def health (app : App) : Response × App :=
  let (t, app) := app.now
  let report := app.hub.stats
  let running := report.toOption.isSome
  let body : Json.Value := .object [
    ("status", .string (if running then "healthy" else "degraded")),
    ("version", .string version),
    ("uptime_seconds", .ofNat (wholeSecondsBetween app.startedAt t)),
    ("store", .object [("backend", .string app.service.store.name),
      ("message_lifetime_seconds", .ofNat (app.service.lifetimeMicros / 1000000))]),
    ("hub", .object [("running", .bool running),
      ("sessions", .ofNat (match report with | .ok st => st.sessions | .error _ => 0))])]
  (okJson body, app)

def stats (app : App) : Response :=
  match app.hub.stats with
  | .ok st => okJson (statsJson st)
  | .error e => errorResponse app.runMode (.hub e)

/-- The families registered when `/metrics` encodes them. A hub that answers
sets the active-session gauge to its report first; one that has stopped set
it when it stopped. -/
def families (app : App) : List Metrics.Family :=
  let active := match app.hub.stats with | .ok s => s.sessions | .error _ => app.hub.hub.active
  Api.families active app.service.persisted app.service.dropped app.hub.hub app.activity

def metrics (app : App) : Response :=
  ⟨200, [("content-type", "text/plain; version=0.0.4; charset=utf-8")], Metrics.encode app.families⟩

/-- The history page: the unexpired messages, newest first, as many as the
request asks for but never more than the configured page. -/
def messages (app : App) (query : Option String) : Response × App :=
  match historyLimit query with
  | .error e => (Response.plain 400 e.message, app)
  | .ok requested =>
    let page := app.settings.chat.historyPageSize
    let limit := min (requested.getD page) page
    let (t, app) := app.now
    match app.service.recent limit t with
    | .ok ms => (okJson (.array (ms.map Message.toJson)), app)
    | .error e => (errorResponse app.runMode (.chat e), app)

/-- The WebSocket handshake: the request must ask for the protocol and name a
user. -/
def socket (runMode : Option String) (req : Request) : Reply :=
  match upgradeKey req with
  | .error r => ⟨r.response, none⟩
  | .ok key =>
    match socketUsername req.target.query with
    | .error e => ⟨Response.plain 400 e.message, none⟩
    | .ok (some name) =>
      if name.isEmpty then ⟨errorResponse runMode (.validation "username parameter is required"), none⟩
      else ⟨switchingProtocols key, some name⟩
    | .ok none => ⟨errorResponse runMode (.validation "username parameter is required"), none⟩

/-- The answer of a route to a `GET` or `HEAD` request. -/
def handle (app : App) (route : Route) (req : Request) : Reply × App :=
  match route with
  | .health => let (r, app) := app.health; (⟨r, none⟩, app)
  | .stats => (⟨app.stats, none⟩, app)
  | .metrics => (⟨app.metrics, none⟩, app)
  | .socket => (socket app.runMode req, app)
  | .messages => let (r, app) := app.messages req.target.query; (⟨r, none⟩, app)

end App

/-- The headers every response carries: any origin is allowed, and the answer
depends on the origin and the preflight headers of the request. -/
def corsHeaders : Headers :=
  [("access-control-allow-origin", "*"),
    ("vary", "origin, access-control-request-method, access-control-request-headers")]

def withCors (r : Response) : Response := { r with headers := r.headers ++ corsHeaders }

/-- The answer to a preflight request: any method and any header are allowed. -/
def preflight : Response :=
  ⟨200, corsHeaders ++ [("access-control-allow-methods", "*"), ("access-control-allow-headers", "*")], ""⟩

def allowed : String := "GET,HEAD"

def App.serve (app : App) (req : Request) : Reply × App :=
  match Route.ofPath? req.target.path with
  | none =>
    let r := if req.method = .options then preflight else withCors (Response.empty 404)
    (⟨if req.target.path.startsWith "/" then r else r.sized, none⟩, app)
  | some route =>
    match req.method with
    | .get | .head =>
      let (reply, app) := app.handle route req
      let r := (withCors reply.response).sized
      (⟨if req.method = .head then r.headOnly else r, reply.session⟩, app)
    | .options => (⟨(preflight.sized).withHeader "allow" allowed, none⟩, app)
    | _ => (⟨((withCors (Response.empty 405)).sized).withHeader "allow" allowed, none⟩, app)

end ChatRelay.Api
