import ChatRelay.Chat.Message

/-! The in-memory message store: entries sorted by creation time and then save
order, history read newest first, expired messages skipped or deleted. -/
namespace ChatRelay.Store

open Chat Time

structure Entry where
  seq : Nat
  message : Message
  deriving DecidableEq, Repr

/-- Whether `a`'s key comes before `b`'s: earlier creation, or the same
creation and an earlier save. -/
def Entry.before (a b : Entry) : Bool :=
  decide (a.message.createdAt < b.message.createdAt) ||
    (decide (a.message.createdAt = b.message.createdAt) && decide (a.seq < b.seq))

def insertEntry (e : Entry) : List Entry → List Entry
  | [] => [e]
  | x :: xs => if e.before x then e :: x :: xs else x :: insertEntry e xs

structure MemoryStore where
  /-- The entries, sorted by key. -/
  entries : List Entry := []
  /-- The save number the next message gets. -/
  nextSeq : Nat := 0
  deriving DecidableEq, Repr

namespace MemoryStore

def empty : MemoryStore := {}

/-- Save a draft under the id drawn for it and the next save number. -/
def save (s : MemoryStore) (id : Uuid) (d : Draft) : Uuid × MemoryStore :=
  (id, { entries := insertEntry ⟨s.nextSeq, d.withId id⟩ s.entries, nextSeq := s.nextSeq + 1 })

def newestFirst (s : MemoryStore) : List Message := (s.entries.map (·.message)).reverse

def findRecent (s : MemoryStore) (limit : Nat) (now : Instant) : List Message :=
  ((s.newestFirst.filter fun m => !m.isExpiredAt now)).take limit

/-- Remove every message expired at `now`; the count removed comes first. -/
def deleteExpired (s : MemoryStore) (now : Instant) : Nat × MemoryStore :=
  let kept := s.entries.filter fun e => !e.message.isExpiredAt now
  (s.entries.length - kept.length, { s with entries := kept })

def size (s : MemoryStore) : Nat := s.entries.length

end MemoryStore

end ChatRelay.Store
