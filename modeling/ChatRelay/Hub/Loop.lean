import ChatRelay.Hub.Switchboard

/-! The hub's loop and its bounded mailbox. The loop takes the first letter or what
the shutdown channel yields, and stops on a signal or when the mailbox is empty
and every handle is gone; then every call is refused as closed. -/
namespace ChatRelay.Hub

open Chat

/-- A request in the mailbox. A stats request carries the number of the call
that waits for its answer. -/
inductive Letter where
  | register (s : Session)
  | unregister (id : SessionId)
  | broadcast (m : Message)
  | stats (call : Nat)
  deriving DecidableEq, Repr

/-- What the shutdown channel yields to the loop: a signal (as it was sent, or
after signals the loop fell behind on), or its end once the sender is gone and
nothing is pending. -/
inductive Received where
  | signal
  | closed
  deriving DecidableEq, Repr

/-- The hub's loop with its switchboard, its mailbox and what stands around it. -/
structure Loop where
  board : Switchboard
  /-- Letters sent and not taken yet, oldest first. -/
  mailbox : List Letter := []
  /-- How many letters the mailbox holds at most. -/
  room : Nat
  /-- The handles that exist. -/
  handles : Nat := 1
  /-- Signals sent that the loop has not received. -/
  signals : Nat := 0
  /-- The answer of each stats call by its number, `none` while it waits. -/
  answers : List (Option (Except HubError Stats)) := []
  deriving Repr

namespace Loop

/-- A hub whose mailbox holds `room` letters, with one handle, before its loop
has taken anything. -/
def start (room : Nat) : Except HubError Loop :=
  if room = 0 then .error (.invalidCapacity 0)
  else if Queue.maxCapacity < room then .error (.queueTooLong room)
  else .ok { board := {}, room := room }

/-- Whether the hub still takes calls: its loop has not stopped. -/
def isRunning (l : Loop) : Bool := l.board.running

/-- A letter dropped unread: the session it carries is dropped, and the stats
call it answers learns that the hub is closed. -/
def drop (l : Loop) : Letter → Loop
  | .register s => { l with board := l.board.dropSession s.queue }
  | .stats n => { l with answers := l.answers.set n (some (.error .closed)) }
  | .unregister _ | .broadcast _ => l

/-- Put a letter in the mailbox; `none` while there is no room and the caller
waits. Once the loop has stopped the call is refused and the letter dropped. -/
def post (l : Loop) (letter : Letter) : Option (Except HubError Unit × Loop) :=
  if l.board.running then
    if l.mailbox.length < l.room then some (.ok (), { l with mailbox := l.mailbox ++ [letter] })
    else none
  else some (.error .closed, l.drop letter)

/-- A stats call: it takes the next call number and waits for its answer. -/
def ask (l : Loop) : Option (Except HubError Unit × Loop) :=
  { l with answers := l.answers ++ [none] }.post (.stats l.answers.length)

def handle (l : Loop) : Letter → Loop
  | .register s => { l with board := (l.board.register s).2 }
  | .unregister id => { l with board := (l.board.unregister id).2 }
  | .broadcast m => { l with board := (l.board.broadcast m).2 }
  | .stats n => { l with answers := l.answers.set n (some l.board.stats) }

/-- The loop stops: the registered sessions leave and the letters still in the
mailbox are dropped. -/
def stop (l : Loop) : Loop :=
  l.mailbox.foldl drop { l with board := l.board.halt, mailbox := [] }

/-- The mailbox side of the loop: the first letter is taken and handled; an
empty mailbox with no handle left ends the loop; otherwise the loop waits. -/
def take (l : Loop) : Loop :=
  if l.board.running then
    match l.mailbox with
    | letter :: rest => { l with mailbox := rest }.handle letter
    | [] => if l.handles = 0 then l.stop else l
  else l

def received (l : Loop) : Option Received :=
  if 0 < l.signals then some .signal
  else if l.board.signalOpen then none
  else some .closed

/-- The shutdown side of the loop, while it listens: a signal stops it, the
channel's end makes it stop listening. -/
def hear (l : Loop) : Loop :=
  if l.board.running && l.board.listening then
    match l.received with
    | some .signal => l.stop
    | some .closed => { l with board := { l.board with listening := false } }
    | none => l
  else l

/-- The shutdown signal is sent, while its sender exists. -/
def signal (l : Loop) : Loop := if l.board.signalOpen then { l with signals := l.signals + 1 } else l

def dropSignal (l : Loop) : Loop := { l with board := { l.board with signalOpen := false } }

def cloneHandle (l : Loop) : Loop := { l with handles := l.handles + 1 }

def dropHandle (l : Loop) : Loop := { l with handles := l.handles - 1 }

end Loop

end ChatRelay.Hub
