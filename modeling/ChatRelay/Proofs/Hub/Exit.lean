import ChatRelay.Proofs.Hub.Shutdown

/-! Why the hub's loop stops, and what a stopped hub gives its clients. The loop's
flags, channel and handles move on their own, so only a signal or an empty
mailbox with no handle left stops it. -/
namespace ChatRelay.Hub

/-- The loop's flags, its shutdown channel and its handles. -/
structure Control where
  running : Bool
  listening : Bool
  signalOpen : Bool
  signals : Nat
  handles : Nat
  deriving DecidableEq, Repr

namespace Control

def received (c : Control) : Option Received :=
  if 0 < c.signals then some .signal
  else if c.signalOpen then none
  else some .closed

/-- The control part after a move, given whether the mailbox is empty. -/
def step (c : Control) (idle : Bool) : Move → Control
  | .take => if c.running && idle && c.handles == 0 then { c with running := false, listening := false } else c
  | .hear =>
    if c.running && c.listening then
      match c.received with
      | some .signal => { c with running := false, listening := false }
      | some .closed => { c with listening := false }
      | none => c
    else c
  | .signal => if c.signalOpen then { c with signals := c.signals + 1 } else c
  | .dropSignal => { c with signalOpen := false }
  | .cloneHandle => if 0 < c.handles then { c with handles := c.handles + 1 } else c
  | .dropHandle => { c with handles := c.handles - 1 }
  | _ => c

variable (c : Control) (idle : Bool)

theorem step_stopped (stopped : c.running = false) (m : Move) : (c.step idle m).running = false := by
  cases m
  case take | hear => simp [step, stopped]
  case signal | cloneHandle => simp only [step]; split_ifs <;> exact stopped
  all_goals exact stopped

/-- A running loop stops only when it hears a signal while it listens, or when
its mailbox is empty and no handle is left. -/
theorem step_stops (running : c.running = true) (m : Move) (stops : (c.step idle m).running = false) :
    (m = .hear ∧ c.listening = true ∧ c.received = some .signal) ∨ (m = .take ∧ idle = true ∧ c.handles = 0) := by
  cases m <;> simp only [step] at stops
  case take =>
    split_ifs at stops with ended
    · simp only [Bool.and_eq_true, beq_iff_eq] at ended
      exact .inr ⟨rfl, ended.1.2, ended.2⟩
    · simp_all
  case hear =>
    split_ifs at stops with listens
    · split at stops
      · rename_i heard
        exact .inl ⟨rfl, by simpa [running] using listens, heard⟩
      all_goals simp_all
    · simp_all
  all_goals (try split_ifs at stops) <;> simp_all

theorem step_closed (closed : c.received = some .closed) (m : Move) :
    (c.step idle m).received = some .closed := by
  have quiet : c.signals = 0 ∧ c.signalOpen = false := by
    unfold received at closed
    split_ifs at closed with pending opened
    · cases closed
    · exact ⟨Nat.eq_zero_of_not_pos pending, by simpa using opened⟩
  cases m <;> simp only [step] <;> (try split_ifs) <;> (try split) <;> simp_all [received]

/-- Hearing a closed channel does not stop a running loop; it stops listening. -/
theorem hear_closed (closed : c.received = some .closed) (running : c.running = true) :
    (c.step idle .hear).running = true ∧ (c.step idle .hear).listening = false := by
  simp only [step, closed, running, Bool.true_and]
  split <;> simp_all

end Control

namespace Loop

variable (l : Loop)

def control : Control := ⟨l.board.running, l.board.listening, l.board.signalOpen, l.signals, l.handles⟩

@[simp] theorem control_running : l.control.running = l.board.running := rfl
@[simp] theorem control_listening : l.control.listening = l.board.listening := rfl
@[simp] theorem control_signalOpen : l.control.signalOpen = l.board.signalOpen := rfl
@[simp] theorem control_handles : l.control.handles = l.handles := rfl
@[simp] theorem received_control : l.control.received = l.received := rfl

theorem control_drop (letter : Letter) : (l.drop letter).control = l.control := by
  cases letter <;> rfl

theorem control_post {letter : Letter} {r : Except HubError Unit} {l' : Loop} (posted : l.post letter = some (r, l')) :
    l'.control = l.control := by
  rcases l.post_some posted with ⟨-, rfl⟩ | ⟨-, rfl⟩
  · rfl
  · exact l.control_drop letter

theorem control_handle (letter : Letter) : (l.handle letter).control = l.control := by
  cases letter
  case stats => rfl
  all_goals
    simp only [handle, Switchboard.register, Switchboard.unregister, Switchboard.broadcast]
    split <;> rfl

theorem control_stop : l.stop.control = { l.control with running := false, listening := false } := by
  obtain ⟨running, listening, signalOpen, -, -, -, handles, signals, -⟩ := l.stop_spec
  simp only [control, running, listening, signalOpen, handles, signals]

theorem control_take : l.take.control = l.control.step l.mailbox.isEmpty .take := by
  unfold take
  split
  · rename_i running
    split
    · rename_i letter rest mailbox
      rw [control_handle]
      simp [Control.step, mailbox]
      rfl
    · rename_i mailbox
      split
      · rename_i gone
        rw [control_stop]
        simp [Control.step, control, running, mailbox, gone]
      · rename_i left
        simp [Control.step, control, running, mailbox, left]
  · rename_i stopped
    simp [Control.step, control, stopped]

theorem control_hear (idle : Bool) : l.hear.control = l.control.step idle .hear := by
  unfold hear
  simp only [Control.step]
  by_cases listens : (l.board.running && l.board.listening) = true
  · have listens' : (l.control.running && l.control.listening) = true := listens
    rw [if_pos listens, if_pos listens', received_control]
    cases l.received with
    | none => rfl
    | some r =>
      cases r
      · exact l.control_stop
      · rfl
  · have listens' : ¬ (l.control.running && l.control.listening) = true := listens
    rw [if_neg listens, if_neg listens']

end Loop

namespace Scene

/-- The control part of the scene moves on its own. -/
theorem control_step (s : Scene) : ∀ m, (s.step m).loop.control = s.loop.control.step s.loop.mailbox.isEmpty m
  | .make u c => by
    simp only [Scene.step]
    split
    · rename_i made
      obtain ⟨-, rfl⟩ := Switchboard.openSession_ok made
      rfl
    · rfl
  | .register t => by
    simp only [Scene.step]
    split
    · split
      · exact s.loop.control_post ‹_›
      · rfl
    · rfl
  | .unregister _ | .broadcast _ => by
    simp only [Scene.step, Scene.call]
    split
    · split
      · exact s.loop.control_post ‹_›
      · rfl
    · rfl
  | .stats => by
    simp only [Scene.step]
    split
    · split
      · rename_i posted
        exact Loop.control_post { s.loop with answers := s.loop.answers ++ [none] } posted
      · rfl
    · rfl
  | .take => s.loop.control_take
  | .hear => s.loop.control_hear _
  | .signal => by
    simp only [Scene.step, Loop.signal, Control.step]
    by_cases opened : s.loop.board.signalOpen = true
    · rw [if_pos opened, if_pos (show s.loop.control.signalOpen = true from opened)]
      rfl
    · rw [if_neg opened, if_neg (show ¬ s.loop.control.signalOpen = true from opened)]
  | .cloneHandle => by
    simp only [Scene.step, Control.step]
    by_cases held : 0 < s.loop.handles
    · rw [if_pos held, if_pos (show 0 < s.loop.control.handles from held)]
      rfl
    · rw [if_neg held, if_neg (show ¬ 0 < s.loop.control.handles from held)]
  | .dropSignal | .dropHandle => rfl
  | .drain k => by
    simp only [Scene.step, Switchboard.drain]
    split <;> rfl
  | .dropReceiver _ => rfl
  | .dropSession _ => by
    simp only [Scene.step]
    split <;> rfl

section
variable {s : Scene}

/-- Once the loop has stopped, the sending side of every session handed over is
gone: the registry and the mailbox are empty, and no maker holds it. -/
theorem Kept.closed_of_stopped (kept : s.Kept) (stopped : s.loop.board.running = false) {t : Session}
    (handed : t ∈ s.handed) : ∃ q, s.loop.board.queue? t.queue = some q ∧ q.senderOpen = false := by
  obtain ⟨mailbox, members⟩ := kept.quiet stopped
  obtain ⟨q, found⟩ := Option.isSome_iff_exists.mp (kept.made t (List.mem_append_right _ handed))
  refine ⟨q, found, ?_⟩
  cases open' : q.senderOpen
  · rfl
  · exfalso
    rcases kept.owned t.queue ⟨q, found, open'⟩ with ⟨u, mine, same⟩ | ⟨u, member, -⟩ | ⟨u, mailed, -⟩
    · exact kept.apart t handed u mine same
    · rw [members] at member
      exact List.not_mem_nil member
    · rw [mailbox] at mailed
      exact List.not_mem_nil mailed

/-- Once the loop has stopped, every stats call has its answer: the stats, or
that the hub is closed. -/
theorem Kept.answers_of_stopped (kept : s.Kept) (stopped : s.loop.board.running = false) :
    ∀ a ∈ s.loop.answers, a = some (.error .closed) ∨ ∃ st, a = some (.ok st) := by
  intro a mine
  obtain ⟨n, found⟩ := List.mem_iff_getElem?.mp mine
  cases a with
  | none =>
    have mailed := kept.waiting n found
    rw [(kept.quiet stopped).1] at mailed
    exact absurd mailed List.not_mem_nil
  | some r =>
    cases r with
    | error e => exact .inl (by rw [kept.answered n e found])
    | ok st => exact .inr ⟨st, rfl⟩

end

end Scene

theorem Switchboard.drain_closed {b : Switchboard} {k : QueueId} {q : Queue} (found : b.queue? k = some q)
    (closed : q.senderOpen = false) : (b.drain k).1 = q.frames ∧ (b.drain k).2.1 = true := by
  unfold Switchboard.drain
  rw [found]
  simp [Queue.drain, Queue.ended, closed]

theorem Loop.post_stopped {l : Loop} (stopped : l.board.running = false) (letter : Letter) :
    l.post letter = some (.error .closed, l.drop letter) := by
  simp [Loop.post, stopped]

/-- A stats call to a stopped loop is refused, and learns at once that the hub
is closed. -/
theorem Loop.ask_stopped {l : Loop} (stopped : l.board.running = false) :
    l.ask = some (.error .closed,
      { l with answers := (l.answers ++ [none]).set l.answers.length (some (.error .closed)) }) :=
  @Loop.post_stopped { l with answers := l.answers ++ [none] } stopped (.stats l.answers.length)

open Scene in
/-- Why the hub's loop stops, and what a stopped hub gives its clients, at
every scene a hub can reach. The loop stops only when it hears a signal while
it listens, or when its mailbox is empty and every handle is gone. A shutdown
channel closed with nothing pending stays so, and hearing it only makes the
loop stop listening. Once stopped, the loop stays stopped; every session ever
handed to the hub has lost its sending side, so its reader gets what was
buffered and then the end; every call is refused as closed; and every stats
call has its answer. -/
theorem hub_shutdown {s : Scene} (reachable : s.Reachable) :
    (∀ m, s.loop.isRunning = true → (s.step m).loop.isRunning = false →
      (m = .hear ∧ s.loop.board.listening = true ∧ s.loop.received = some .signal) ∨
      (m = .take ∧ s.loop.mailbox = [] ∧ s.loop.handles = 0)) ∧
    (s.loop.received = some .closed →
      (∀ m, (s.step m).loop.received = some .closed) ∧
      (s.loop.isRunning = true →
        (s.step .hear).loop.isRunning = true ∧ (s.step .hear).loop.board.listening = false)) ∧
    (s.loop.isRunning = false →
      (∀ m, (s.step m).loop.isRunning = false) ∧
      (∀ t ∈ s.handed, ∃ q, s.loop.board.queue? t.queue = some q ∧ q.senderOpen = false ∧
        (s.loop.board.drain t.queue).1 = q.frames ∧ (s.loop.board.drain t.queue).2.1 = true) ∧
      (∀ letter, s.loop.post letter = some (.error .closed, s.loop.drop letter)) ∧
      (∃ l, s.loop.ask = some (.error .closed, l)) ∧
      (∀ a ∈ s.loop.answers, a = some (.error .closed) ∨ ∃ st, a = some (.ok st))) := by
  have kept := reachable.kept
  -- the flags after a move are those the control part computes
  have control (m : Move) : (s.step m).loop.control = s.loop.control.step s.loop.mailbox.isEmpty m :=
    s.control_step m
  refine ⟨fun m running stops => ?_, fun closed => ⟨fun m => ?_, fun running => ?_⟩, fun stopped => ?_⟩
  · have reason := s.loop.control.step_stops s.loop.mailbox.isEmpty running m (by rw [← control]; exact stops)
    simpa only [Loop.control_listening, Loop.received_control, Loop.control_handles, List.isEmpty_iff] using reason
  · have stays := s.loop.control.step_closed s.loop.mailbox.isEmpty closed m
    rwa [← control, Loop.received_control] at stays
  · have heard := s.loop.control.hear_closed s.loop.mailbox.isEmpty closed running
    rwa [← control] at heard
  refine ⟨fun m => ?_, fun t handed => ?_, Loop.post_stopped stopped, ⟨_, Loop.ask_stopped stopped⟩,
    kept.answers_of_stopped stopped⟩
  · have stays := s.loop.control.step_stopped s.loop.mailbox.isEmpty stopped m
    rwa [← control] at stays
  · obtain ⟨q, found, closed⟩ := kept.closed_of_stopped stopped handed
    exact ⟨q, found, closed, Switchboard.drain_closed found closed⟩

/-- A session handed over and still waiting in the mailbox when the loop hears
a signal: the loop stops, and the session's reader finds its end. -/
theorem hub_shutdown_closes_waiting_session :
    let s := ((((Scene.mk { board := {}, room := 1 } [] [] Uuid.ofNat).step (.make "alice" 1)).step
      (.register ⟨Uuid.ofNat 0, "alice", 0⟩)).step .signal).step .hear
    s.Reachable ∧ s.loop.isRunning = false ∧ s.handed = [⟨Uuid.ofNat 0, "alice", 0⟩] ∧
      ∃ q, s.loop.board.queue? 0 = some q ∧ q.senderOpen = false ∧
        (s.loop.board.drain 0).1 = q.frames ∧ (s.loop.board.drain 0).2.1 = true :=
  have started : Scene.Reachable ⟨{ board := {}, room := 1 }, [], [], Uuid.ofNat⟩ :=
    .start (show Loop.start 1 = .ok { board := {}, room := 1 } from rfl)
  have reachable :=
    (((started.step (.make "alice" 1)).step (.register ⟨Uuid.ofNat 0, "alice", 0⟩)).step .signal).step .hear
  ⟨reachable, rfl, rfl,
    ((hub_shutdown reachable).2.2 rfl).2.1 ⟨Uuid.ofNat 0, "alice", 0⟩ (List.mem_singleton_self _)⟩

end ChatRelay.Hub
