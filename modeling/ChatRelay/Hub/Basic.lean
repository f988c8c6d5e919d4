import ChatRelay.Hub.Queue
import ChatRelay.Chat.Message

/-! The hub's registry of sessions and the fan-out of messages. A session whose
queue refuses a frame is evicted; leaving the registry drops the sending side of
its queue. The registry knows sessions by id, each queue by the session made with it. -/
namespace ChatRelay.Hub

open Chat

/-- The identity of a session: a random id drawn when the session is made. -/
abbrev SessionId := Uuid

/-- Which queue a session sends into: every session made has a queue of its own. -/
abbrev QueueId := Nat

/-- Why the hub refused a request, or could not make a queue at all. -/
inductive HubError where
  | closed
  | emptyUsername
  | invalidCapacity (capacity : Nat)
  /-- A queue longer than a bounded queue can count: the program stops
  rather than answer. -/
  | queueTooLong (capacity : Nat)
  deriving DecidableEq, Repr

def HubError.message : HubError → String
  | .closed => "Hub is not running"
  | .emptyUsername => "Username must not be empty"
  | .invalidCapacity n => "Queue capacity must be greater than zero, got " ++ toString n
  | .queueTooLong _ =>
    "a semaphore may not have more than MAX_PERMITS permits (" ++ toString Queue.maxCapacity ++ ")"

/-- Whether an error stops the program instead of being answered. -/
def HubError.stops : HubError → Bool
  | .queueTooLong _ => true
  | _ => false

/-- A user's session as the hub holds it: its id, its user, and the queue whose
sending side it holds. -/
structure Session where
  id : SessionId
  username : String
  queue : QueueId
  deriving DecidableEq, Repr

structure Stats where
  sessions : Nat
  uniqueUsers : Nat
  broadcasts : Nat
  framesDelivered : Nat
  evictions : Nat
  deriving DecidableEq, Repr

abbrev Queues := List (QueueId × Queue)

namespace Queues

def get? (qs : Queues) (k : QueueId) : Option Queue := (qs.find? (·.1 == k)).map (·.2)

def modify (qs : Queues) (k : QueueId) (f : Queue → Queue) : Queues :=
  qs.map fun p => if p.1 = k then (p.1, f p.2) else p

end Queues

/-- The hub's state, with the outbound queues of all sessions it may serve. -/
structure Registry where
  /-- The registry, in order of registration. -/
  members : List Session := []
  queues : Queues := []
  broadcasts : Nat := 0
  framesDelivered : Nat := 0
  evictions : Nat := 0
  /-- The active-sessions gauge, as last set. -/
  active : Nat := 0
  deriving DecidableEq, Repr

/-- The requests the hub handles, one at a time. -/
inductive Event where
  | register (s : Session)
  | unregister (id : SessionId)
  | broadcast (m : Message)
  | stats
  deriving DecidableEq, Repr

/-- Offer a frame to each session in turn: those whose queue takes it, those
evicted, and the queues after. -/
def offer (f : Frame) : Queues → List Session → List Session × List Session × Queues
  | qs, [] => ([], [], qs)
  | qs, s :: rest =>
    match (qs.get? s.queue).map fun (q : Queue) => q.trySend f with
    | some (.ok q) =>
      let (kept, evicted, qs) := offer f (qs.modify s.queue fun _ => q) rest
      (s :: kept, evicted, qs)
    | _ =>
      let (kept, evicted, qs) := offer f qs rest
      (kept, s :: evicted, qs)

/-- Drop the sending side of each session's queue. -/
def closeAll (qs : Queues) (ss : List Session) : Queues :=
  ss.foldl (fun qs s => qs.modify s.queue Queue.closeSender) qs

namespace Registry

def isMember (h : Registry) (id : SessionId) : Bool := h.members.any (·.id == id)

def addQueue (h : Registry) (k : QueueId) (capacity : Nat) : Registry :=
  { h with queues := h.queues ++ [(k, { capacity := capacity })] }

/-- Register a session. One whose id is registered already is dropped: the
registry stays as it is and the sending side of its queue goes. -/
def register (h : Registry) (s : Session) : Registry :=
  if h.isMember s.id then { h with queues := h.queues.modify s.queue Queue.closeSender }
  else
    let members := h.members ++ [s]
    { h with members := members, active := members.length }

/-- Unregister a session, dropping its queue's sending side. -/
def unregister (h : Registry) (id : SessionId) : Registry :=
  if h.isMember id then
    let members := h.members.filter (·.id != id)
    { h with
      members := members
      queues := closeAll h.queues (h.members.filter (·.id == id))
      active := members.length }
  else h

def broadcast (h : Registry) (m : Message) : Registry :=
  let (kept, evicted, qs) := offer m.wire h.queues h.members
  { h with
    members := kept
    queues := closeAll qs evicted
    broadcasts := h.broadcasts + 1
    framesDelivered := h.framesDelivered + kept.length
    evictions := h.evictions + evicted.length
    active := if evicted.isEmpty then h.active else kept.length }

def stats (h : Registry) : Stats :=
  ⟨h.members.length, (h.members.map (·.username)).eraseDups.length, h.broadcasts,
    h.framesDelivered, h.evictions⟩

/-- Handle one request; a stats request is answered. -/
def handle (h : Registry) : Event → Registry × Option Stats
  | .register s => (h.register s, none)
  | .unregister id => (h.unregister id, none)
  | .broadcast m => (h.broadcast m, none)
  | .stats => (h, some h.stats)

/-- Stop: every session leaves and its queue's sending side is dropped. -/
def stop (h : Registry) : Registry :=
  { h with members := [], queues := closeAll h.queues h.members, active := 0 }

end Registry

end ChatRelay.Hub
