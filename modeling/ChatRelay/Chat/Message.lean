import ChatRelay.Time.Delta
import ChatRelay.Time.Rfc3339
import ChatRelay.Uuid
import ChatRelay.Json.Value

/-! Chat messages and their wire form. A draft is created at a clock reading cut
down to whole microseconds and expires a lifetime later; the store gives it an id. -/
namespace ChatRelay.Chat

open Time

structure Draft where
  username : String
  text : String
  createdAt : Instant
  expiresAt : Instant
  deriving DecidableEq, Repr

structure Message where
  id : Uuid
  username : String
  text : String
  createdAt : Instant
  expiresAt : Instant
  deriving DecidableEq, Repr, Inhabited

/-- The text reported when an expiry falls outside the supported range. -/
def overflowMessage : String := "`DateTime + TimeDelta` overflowed"

namespace Draft

/-- The draft written at `now` to live for `lifetime`; `none` when the expiry
falls outside the supported range. -/
def create? (username text : String) (now : Instant) (lifetime : Delta) : Option Draft :=
  let createdAt := now.truncMicros
  (createdAt.addDelta? lifetime).map fun expiresAt => ⟨username, text, createdAt, expiresAt⟩

def withId (d : Draft) (id : Uuid) : Message := ⟨id, d.username, d.text, d.createdAt, d.expiresAt⟩

end Draft

namespace Message

/-- A message has expired from its expiry instant on. -/
def isExpiredAt (m : Message) (t : Instant) : Bool := decide (m.expiresAt ≤ t)

def draft (m : Message) : Draft := ⟨m.username, m.text, m.createdAt, m.expiresAt⟩

def toJson (m : Message) : Json.Value :=
  .object [("id", .string m.id.hyphenated), ("username", .string m.username),
    ("message", .string m.text), ("created_at", .string m.createdAt.rfc3339),
    ("expires_at", .string m.expiresAt.rfc3339)]

def wire (m : Message) : String := m.toJson.render

end Message

end ChatRelay.Chat
