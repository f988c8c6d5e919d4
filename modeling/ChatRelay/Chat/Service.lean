import ChatRelay.Store.Backend
import ChatRelay.Time.Duration

/-! The chat service: it stores what a user wrote as a message that expires a
fixed lifetime later, counts what it stored and dropped, and answers history
queries. -/
namespace ChatRelay.Chat

open Store Time

inductive ChatError where
  | persistence (e : StoreError)
  | query (e : StoreError)
  | invalidLifetime (d : Duration)
  deriving DecidableEq, Repr

def ChatError.message : ChatError → String
  | .persistence e => "Failed to persist message: " ++ e.message
  | .query e => "Message query failed: " ++ e.message
  | .invalidLifetime d => "Invalid message lifetime: " ++ d.debugText

/-- The longest lifetime, in microseconds: 2^63 − 1. -/
def maxLifetimeMicros : Nat := 9223372036854775807

structure Service where
  /-- The lifetime of every message, in microseconds. -/
  lifetimeMicros : Nat
  store : Backend
  /-- Messages stored so far. -/
  persisted : Nat := 0
  /-- Messages dropped because the store failed. -/
  dropped : Nat := 0
  deriving DecidableEq, Repr

/-- What became of a message handed to the service. -/
inductive Processed where
  | stored (m : Message)
  | failed (e : ChatError)
  /-- The expiry fell outside the supported range of instants. -/
  | overflow
  deriving DecidableEq, Repr

namespace Service

/-- A service whose messages live for `d`, cut down to whole microseconds. -/
def new (store : Backend) (d : Duration) : Except ChatError Service :=
  let micros := d.wholeMicros
  if micros = 0 ∨ maxLifetimeMicros < micros then .error (.invalidLifetime d)
  else .ok ⟨micros, store, 0, 0⟩

def lifetime (s : Service) : Delta := Delta.ofMicros s.lifetimeMicros

/-- Store what `username` wrote at `now`, under the id `id` drawn for it. -/
def process (s : Service) (id : Uuid) (username text : String) (now : Instant) : Processed × Service :=
  match Draft.create? username text now s.lifetime with
  | none => (.overflow, s)
  | some d =>
    match s.store.save id d with
    | .ok (id, store) => (.stored (d.withId id), { s with store := store, persisted := s.persisted + 1 })
    | .error e => (.failed (.persistence e), { s with dropped := s.dropped + 1 })

def recent (s : Service) (limit : Nat) (now : Instant) : Except ChatError (List Message) :=
  (s.store.findRecent limit now).mapError .query

def cleanup (s : Service) (now : Instant) : Except ChatError (Nat × Service) :=
  match s.store.deleteExpired now with
  | .ok (n, store) => .ok (n, { s with store := store })
  | .error e => .error (.query e)

end Service

end ChatRelay.Chat
