import ChatRelay.Metrics.Text
import ChatRelay.Hub.Basic

/-! The service's metric families. Each registers the first time it is recorded
to; the active-session gauge is set before every encoding. -/
namespace ChatRelay.Api

open Metrics Hub

/-- What the session tasks and the expiry sweeper have recorded: sessions
opened, the length in seconds of each one closed, text frames received, and
the sweeps by result with the messages they removed. -/
structure Activity where
  opened : Nat := 0
  closedLengths : List Float := []
  received : Nat := 0
  sweepSuccesses : Nat := 0
  sweepFailures : Nat := 0
  expired : Nat := 0

def sessionLengthBounds : List Float := [1, 10, 60, 300, 1800, 3600, 14400]

/-- A counter, once it has been recorded to. -/
def counterOnce (recorded : Bool) (name help : String) (value : Nat) : List Family :=
  if recorded then [counter name help value] else []

def activeGauge (sessions : Nat) : Family :=
  gauge "ara_chat_sessions_active" "Number of sessions currently registered with the hub" sessions

def broadcastsCounter (n : Nat) : Family :=
  counter "ara_chat_broadcasts_total" "Total messages broadcast by the hub" n

def framesCounter (n : Nat) : Family :=
  counter "ara_chat_frames_delivered_total" "Total frames enqueued to session outbound queues" n

def evictedCounter (n : Nat) : Family :=
  counter "ara_chat_sessions_evicted_total" "Total sessions evicted during broadcast" n

/-- The registered families, given the gauge's value, the chat service's
counts of messages stored and dropped, the hub's registry and what the other
tasks recorded. -/
def families (active persisted dropped : Nat) (hub : Registry) (a : Activity) : List Family :=
  [activeGauge active] ++
  counterOnce (0 < a.opened) "ara_chat_sessions_opened_total" "Total WebSocket sessions opened" a.opened ++
  counterOnce (!a.closedLengths.isEmpty) "ara_chat_sessions_closed_total" "Total WebSocket sessions closed"
    a.closedLengths.length ++
  (if a.closedLengths.isEmpty then []
    else [histogram "ara_chat_session_duration_seconds" "WebSocket session duration in seconds"
      sessionLengthBounds a.closedLengths]) ++
  (if 0 < hub.evictions then [evictedCounter hub.evictions] else []) ++
  counterOnce (0 < a.received) "ara_chat_messages_received_total" "Total inbound chat frames received"
    a.received ++
  counterOnce (0 < persisted) "ara_chat_messages_persisted_total" "Total chat messages persisted" persisted ++
  counterOnce (0 < dropped) "ara_chat_messages_dropped_total"
    "Total inbound messages dropped after a persistence failure" dropped ++
  (if 0 < hub.broadcasts then [broadcastsCounter hub.broadcasts, framesCounter hub.framesDelivered] else []) ++
  [counterVec "ara_chat_sweeps_total" "Total expiry sweeps by result" "result"
    ((if 0 < a.sweepSuccesses then [("success", a.sweepSuccesses)] else []) ++
      (if 0 < a.sweepFailures then [("failure", a.sweepFailures)] else []))] ++
  counterOnce (0 < a.sweepSuccesses) "ara_chat_messages_expired_total"
    "Total expired messages deleted by the sweeper" a.expired

end ChatRelay.Api
