import ChatRelay.Hub.Basic

/-! The hub as its clients reach it, each request handled before the next is made. -/
namespace ChatRelay.Hub

open Chat

/-- The hub, whether its loop runs, and its shutdown signal. -/
structure Switchboard where
  hub : Registry := {}
  running : Bool := true
  /-- The loop still listens for the shutdown signal. -/
  listening : Bool := true
  /-- The shutdown signal's sender still exists. -/
  signalOpen : Bool := true
  /-- The queue the next session made gets. -/
  nextId : QueueId := 0
  deriving DecidableEq, Repr

namespace Switchboard

/-- A hub whose mailbox holds `mailbox` requests, after `signals` shutdown
signals were sent before its loop started, the signal's sender being gone
already when `senderGone`. A signal that is waiting stops the loop at once. -/
def start (mailbox signals : Nat) (senderGone : Bool) : Except HubError Switchboard :=
  if mailbox = 0 then .error (.invalidCapacity 0)
  else if Queue.maxCapacity < mailbox then .error (.queueTooLong mailbox)
  else if 0 < signals then .ok { running := false, listening := false, signalOpen := !senderGone }
  else .ok { listening := !senderGone, signalOpen := !senderGone }

/-- Make a session with the id `id` drawn for it, for `username`, whose new
queue holds `capacity` frames. -/
def openSession (b : Switchboard) (id : SessionId) (username : String) (capacity : Nat) :
    Except HubError (Session × Switchboard) :=
  if username.isEmpty then .error .emptyUsername
  else if capacity = 0 then .error (.invalidCapacity capacity)
  else if Queue.maxCapacity < capacity then .error (.queueTooLong capacity)
  else .ok (⟨id, username, b.nextId⟩,
    { b with hub := b.hub.addQueue b.nextId capacity, nextId := b.nextId + 1 })

/-- The loop ends: every session leaves. -/
def halt (b : Switchboard) : Switchboard :=
  { b with hub := b.hub.stop, running := false, listening := false }

def register (b : Switchboard) (s : Session) : Except HubError Unit × Switchboard :=
  if b.running then (.ok (), { b with hub := b.hub.register s })
  else (.error .closed, { b with hub := { b.hub with queues := b.hub.queues.modify s.queue Queue.closeSender } })

def unregister (b : Switchboard) (id : SessionId) : Except HubError Unit × Switchboard :=
  if b.running then (.ok (), { b with hub := b.hub.unregister id }) else (.error .closed, b)

def broadcast (b : Switchboard) (m : Message) : Except HubError Unit × Switchboard :=
  if b.running then (.ok (), { b with hub := b.hub.broadcast m }) else (.error .closed, b)

def stats (b : Switchboard) : Except HubError Stats :=
  if b.running then .ok b.hub.stats else .error .closed

/-- Send the shutdown signal: `none` when its sender is gone, else whether a
running loop received it. -/
def signal (b : Switchboard) : Option (Bool × Switchboard) :=
  if !b.signalOpen then none
  else if b.running then some (true, b.halt)
  else some (false, b)

/-- The signal's sender goes away; the loop stops listening for it. -/
def dropSignal (b : Switchboard) : Switchboard := { b with signalOpen := false, listening := false }

/-- Every handle goes away: the loop ends. -/
def dropHandles (b : Switchboard) : Switchboard := if b.running then b.halt else b

def queue? (b : Switchboard) (k : QueueId) : Option Queue := b.hub.queues.get? k

/-- Read everything a session's queue holds, and whether it has ended. -/
def drain (b : Switchboard) (k : QueueId) : List Frame × Bool × Switchboard :=
  match b.queue? k with
  | some q =>
    let (frames, q) := q.drain
    (frames, q.ended, { b with hub := { b.hub with queues := b.hub.queues.modify k fun _ => q } })
  | none => ([], true, b)

/-- Receive up to `n` frames from a session's queue, one at a time, and
whether it has ended then. -/
def receive (b : Switchboard) (k : QueueId) (n : Nat) : List Frame × Bool × Switchboard :=
  match b.queue? k with
  | some q =>
    let (frames, q) := q.receive n
    (frames, q.ended, { b with hub := { b.hub with queues := b.hub.queues.modify k fun _ => q } })
  | none => ([], true, b)

def dropReceiver (b : Switchboard) (k : QueueId) : Switchboard :=
  { b with hub := { b.hub with queues := b.hub.queues.modify k Queue.closeReceiver } }

/-- A session that was never handed to the hub is dropped, and with it the
sending side of its queue. -/
def dropSession (b : Switchboard) (k : QueueId) : Switchboard :=
  { b with hub := { b.hub with queues := b.hub.queues.modify k Queue.closeSender } }

end Switchboard

end ChatRelay.Hub
