/-! A session's bounded outbound queue. Sending never waits; once the sending side
is gone the reader gets what is buffered and then the end. -/
namespace ChatRelay.Hub

/-- A frame: the wire text of a message. -/
abbrev Frame := String

inductive SendError where
  | full
  | closed
  deriving DecidableEq, Repr

/-- A bounded queue of frames with its two ends. -/
structure Queue where
  capacity : Nat
  /-- Frames waiting to be read, oldest first. -/
  frames : List Frame := []
  /-- The sending side still exists. -/
  senderOpen : Bool := true
  /-- The reading side still exists. -/
  receiverOpen : Bool := true
  deriving DecidableEq, Repr

namespace Queue

/-- The most places a bounded queue can have: its free places are counted in
a word whose top three bits are kept for flags, so 2^61 - 1. -/
def maxCapacity : Nat := Nat.pow 2 61 - 1

def trySend (q : Queue) (f : Frame) : Except SendError Queue :=
  if !q.receiverOpen then .error .closed
  else if q.capacity ≤ q.frames.length then .error .full
  else .ok { q with frames := q.frames ++ [f] }

def closeSender (q : Queue) : Queue := { q with senderOpen := false }

/-- The reading side goes away, discarding what was buffered. -/
def closeReceiver (q : Queue) : Queue := { q with receiverOpen := false, frames := [] }

def drain (q : Queue) : List Frame × Queue := (q.frames, { q with frames := [] })

/-- Read the first `n` frames buffered, or all of them when fewer are. -/
def receive (q : Queue) (n : Nat) : List Frame × Queue := (q.frames.take n, { q with frames := q.frames.drop n })

/-- Reading has reached the end: nothing is buffered and nothing more can come. -/
def ended (q : Queue) : Bool := !q.senderOpen && q.frames.isEmpty

end Queue

end ChatRelay.Hub
