import ChatRelay.Api.Router

/-! A WebSocket connection after the handshake: the session is made and handed to
the hub, then the read pump stores and broadcasts the client's text frames and
the write pump writes the session's queue to the socket. -/
namespace ChatRelay.Socket

open Chat Hub Api

inductive Inbound where
  | text (s : String)
  | binary (data : List UInt8)
  | ping
  | pong
  | close
  /-- A read error. -/
  | failure
  deriving DecidableEq, Repr

inductive Outbound where
  | text (s : String)
  | close
  deriving DecidableEq, Repr

/-- Why a read pump stopped. -/
inductive ReadEnd where
  | closed
  | failed
  | ended
  /-- The hub refused a broadcast. -/
  | refused
  /-- The expiry of a message fell outside the supported range: the pump
  stops without a word to the hub. -/
  | crashed
  deriving DecidableEq, Repr

/-- Make the session of a new connection, with a random id, and hand it to the hub. -/
def App.accept (app : App) (username : String) : Except HubError (Session × App) := do
  let (id, ids) := app.ids.next
  let (s, hub) ← app.hub.openSession id username app.settings.websocket.outboundQueueSize
  match hub.register s with
  | (.ok (), hub) => pure (s, { app with hub := hub, ids := ids })
  | (.error e, _) => throw e

/-- The state a read pump works on. -/
structure Reading where
  app : App
  /-- Text frames taken so far. -/
  received : Nat := 0
  /-- Messages handed to the hub, in order. -/
  published : List Message := []

/-- Ask the hub to forget a session; a hub that has stopped has forgotten it. -/
def Reading.leave (r : Reading) (id : SessionId) : Reading :=
  { r with app := { r.app with hub := (r.app.hub.unregister id).2 } }

/-- Take one frame: the read pump's state after it, or the state the pump
stopped in and why. -/
def readFrame (s : Session) (r : Reading) : Inbound → Reading ⊕ (Reading × ReadEnd)
  | .close => .inr (r.leave s.id, .closed)
  | .failure => .inr (r.leave s.id, .failed)
  | .binary _ | .ping | .pong => .inl r
  | .text t =>
    let (now, app) := r.app.now
    let r := { r with app := app, received := r.received + 1 }
    -- the store draws an id only for a message it saves
    let (id, ids) := app.ids.next
    match app.service.process id s.username t now with
    | (.stored m, service) =>
      let app := { app with service := service, ids := ids }
      match app.hub.broadcast m with
      | (.ok (), hub) => .inl { r with app := { app with hub := hub }, published := r.published ++ [m] }
      | (.error _, hub) => .inr ({ r with app := { app with hub := hub } }.leave s.id, .refused)
    | (.failed _, service) => .inl { r with app := { app with service := service } }
    | (.overflow, _) => .inr (r, .crashed)

/-- Run the read pump of session `s` over the client's frames. -/
def readPump (s : Session) : List Inbound → Reading → Reading × ReadEnd
  | [], r => (r.leave s.id, .ended)
  | f :: rest, r =>
    match readFrame s r f with
    | .inl r => readPump s rest r
    | .inr stop => stop

/-- Frames other than text and close leave the read pump's state alone. -/
@[simp] theorem readPump_binary (s : Session) (d : List UInt8) (rest : List Inbound) (r : Reading) :
    readPump s (.binary d :: rest) r = readPump s rest r := by
  rw [readPump, readFrame]

@[simp] theorem readPump_ping (s : Session) (rest : List Inbound) (r : Reading) :
    readPump s (.ping :: rest) r = readPump s rest r := by
  rw [readPump, readFrame]

@[simp] theorem readPump_pong (s : Session) (rest : List Inbound) (r : Reading) :
    readPump s (.pong :: rest) r = readPump s rest r := by
  rw [readPump, readFrame]

/-- What a write pump does, in order: it writes a message to the socket, or
asks the hub to forget a session. -/
inductive WriteEffect where
  | write (m : Outbound)
  | unregister (id : SessionId)
  deriving DecidableEq, Repr

/-- Run the write pump of session `id` over what its queue yields: `frames` in
order, then the end of the queue if `ended`. `accepts` tells for each text
write in turn whether the socket takes it, a write past its end being taken;
the close frame is written whatever the socket does with it. The pump's
effects, and whether it has ended. -/
def writePump (id : SessionId) : List Frame → Bool → List Bool → List WriteEffect × Bool
  | [], ended, _ => if ended then ([.write .close], true) else ([], false)
  | f :: rest, ended, accepts =>
    if accepts.headD true then
      let (effects, done) := writePump id rest ended accepts.tail
      (.write (.text f) :: effects, done)
    else ([.write (.text f), .unregister id], true)

end ChatRelay.Socket
