import ChatRelay.Socket.Pump
import ChatRelay.Proofs.Hub.Delivery
import ChatRelay.Proofs.Hub.Exit

/-! What the write pump sends: the whole queue and a close frame when every write
succeeds, up to the failed write and one unregister request otherwise. -/
namespace ChatRelay.Hub

theorem Life.step_deaf {k : QueueId} {c : Nat} {w : World} {l : Life} {a : Act}
    (other : a ≠ .dropReceiver k) : (l.step k c w a).deaf = l.deaf := by
  cases a with
  | dropReceiver k' =>
    have : k' ≠ k := fun same => other (by rw [same])
    simp [Life.step, this]
  | _ => grind [Life.step, Life.leave]

theorem Life.run_deaf {k : QueueId} {c : Nat} {w : World} {l : Life} {acts : List Act}
    (keeps : Act.dropReceiver k ∉ acts) : (Life.run k c w l acts).deaf = l.deaf := by
  induction acts generalizing w l with
  | nil => rfl
  | cons a rest ih =>
    simp only [List.mem_cons, not_or] at keeps
    rw [Life.run, ih keeps.2, Life.step_deaf (Ne.symm keeps.1)]

end ChatRelay.Hub

namespace ChatRelay.Socket

open Hub

def textWrites (frames : List Frame) : List WriteEffect := frames.map fun f => .write (.text f)

@[simp] theorem textWrites_nil : textWrites [] = [] := rfl

@[simp] theorem textWrites_cons (f : Frame) (rest : List Frame) :
    textWrites (f :: rest) = .write (.text f) :: textWrites rest := rfl

theorem headD_eq_getD (accepts : List Bool) : accepts.headD true = accepts.getD 0 true := by
  cases accepts <;> rfl

theorem getD_tail (accepts : List Bool) (i : Nat) : accepts.tail.getD i true = accepts.getD (i + 1) true := by
  cases accepts <;> simp

variable (id : SessionId)

/-- A socket that takes every write gets the whole queue, then the close frame
once the queue has ended; the pump ends exactly then. -/
theorem writePump_taken (frames : List Frame) (ended : Bool) (accepts : List Bool)
    (taken : ∀ i < frames.length, accepts.getD i true = true) :
    writePump id frames ended accepts = (textWrites frames ++ if ended then [.write .close] else [], ended) := by
  induction frames generalizing accepts with
  | nil => cases ended <;> rfl
  | cons f rest ih =>
    have first : accepts.headD true = true := by
      rw [headD_eq_getD]
      exact taken 0 (by simp)
    have later : ∀ i < rest.length, accepts.tail.getD i true = true := by
      intro i inside
      rw [getD_tail]
      exact taken (i + 1) (by simpa using inside)
    rw [writePump, if_pos first, ih accepts.tail later]
    rfl

/-- The first write the socket refuses is the last: the pump asks the hub once
to forget the session and ends, with no close frame. -/
theorem writePump_refused (frames : List Frame) (ended : Bool) (accepts : List Bool) (i : Nat)
    (inside : i < frames.length) (refused : accepts.getD i true = false)
    (before : ∀ j < i, accepts.getD j true = true) :
    writePump id frames ended accepts = (textWrites (frames.take (i + 1)) ++ [.unregister id], true) := by
  induction frames generalizing accepts i with
  | nil => simp at inside
  | cons f rest ih =>
    cases i with
    | zero =>
      have first : accepts.headD true = false := by rwa [headD_eq_getD]
      rw [writePump, if_neg (by rw [first]; decide)]
      rfl
    | succ i =>
      have first : accepts.headD true = true := by
        rw [headD_eq_getD]
        exact before 0 (by omega)
      have later := ih accepts.tail i (by simpa using inside) (by rwa [getD_tail])
        (fun j below => by rw [getD_tail]; exact before (j + 1) (by omega))
      rw [writePump, if_pos first, later]
      rfl

/-- Once the hub has let a session go, and its reader has held on, a last drain
gives the reader every frame the session heard that it had not taken yet, and
the end of the queue. -/
theorem last_drain {w : World} (reachable : Reachable w) {sid : SessionId} {u : String} {c : Nat}
    {s : Session} {b : Switchboard} (made : w.board.openSession sid u c = .ok (s, b)) (acts : List Act)
    (keeps : Act.dropReceiver s.queue ∉ acts) :
    let start := w.step (.make sid u c)
    let life := Life.run s.queue c start {} acts
    let final := (start.run acts).board.drain s.queue
    life.stage = .gone → start.reads s.queue acts ++ final.1 = life.frames ∧ final.2.1 = true := by
  intro start life final gone
  have sound := reachable.sound
  have tracks := (Tracks.made sound made).run (sound.step _) acts
  have hears : life.deaf = false := Life.run_deaf keeps
  have found : (start.run acts).board.queue? s.queue = some (life.queue c) := tracks.queue
  have closed : (life.queue c).senderOpen = false := by simp [Life.queue, gone]
  obtain ⟨rest, ended⟩ := Switchboard.drain_closed found closed
  refine ⟨?_, ended⟩
  have read : start.reads s.queue acts = life.frames.take life.taken := by
    simpa using tracks.read
  change start.reads s.queue acts ++ ((start.run acts).board.drain s.queue).1 = _
  rw [rest, read]
  simp [Life.queue, hears]

/-- The write pump's law. With a socket that takes every write, the pump writes
the frames of its queue in order, then, if the queue has ended, one close
frame, and it ends exactly when the queue has. When the socket first refuses a
write, the pump has written the frames up to and including that one, asks the
hub once to forget the session, and ends without a close frame. So for a
session made at any point of a run of the hub, and let go by it by the end of
the run (unregistered, evicted, the loop stopped, or refused at hand-over), a
pump that has held the queue's reader and drains it once more writes every
frame the hub queued for the session, in order, and then a close frame. -/
theorem write_pump_law :
    (∀ (id : SessionId) (frames : List Frame) (ended : Bool) (accepts : List Bool),
      (∀ i < frames.length, accepts.getD i true = true) →
      writePump id frames ended accepts = (textWrites frames ++ if ended then [.write .close] else [], ended)) ∧
    (∀ (id : SessionId) (frames : List Frame) (ended : Bool) (accepts : List Bool) (i : Nat),
      i < frames.length → accepts.getD i true = false → (∀ j < i, accepts.getD j true = true) →
      writePump id frames ended accepts = (textWrites (frames.take (i + 1)) ++ [.unregister id], true)) ∧
    (∀ {w : World}, Reachable w → ∀ {sid : SessionId} {u : String} {c : Nat} {s : Session} {b : Switchboard},
      w.board.openSession sid u c = .ok (s, b) → ∀ acts : List Act, Act.dropReceiver s.queue ∉ acts →
      let start := w.step (.make sid u c)
      let life := Life.run s.queue c start {} acts
      let final := (start.run acts).board.drain s.queue
      life.stage = .gone → ∀ accepts : List Bool, (∀ i < life.frames.length, accepts.getD i true = true) →
      writePump s.id (start.reads s.queue acts ++ final.1) final.2.1 accepts =
        (textWrites life.frames ++ [.write .close], true)) := by
  refine ⟨writePump_taken, writePump_refused, ?_⟩
  intro w reachable sid u c s b made acts keeps
  dsimp only
  intro gone accepts taken
  obtain ⟨frames, ended⟩ := last_drain reachable made acts keeps gone
  rw [frames, ended, writePump_taken _ _ _ _ taken]
  rfl

/-- A session of two places hears a message, its reader receives it, it hears a
second one and is unregistered: the pump's last drain gives the second frame
and the end, and the client gets both frames and a close frame. -/
theorem write_pump_law_after_unregister :
    let w : World := ⟨{}, []⟩
    let acts : List Act :=
      [.register ⟨.nil, "alice", 0⟩, .broadcast default, .receive 0 1, .broadcast default, .unregister .nil]
    let start := w.step (.make .nil "alice" 2)
    let life := Life.run 0 2 start {} acts
    let final := (start.run acts).board.drain 0
    (Reachable w ∧
      w.board.openSession .nil "alice" 2 = .ok (⟨.nil, "alice", 0⟩, { hub := Registry.addQueue {} 0 2, nextId := 1 }) ∧
      Act.dropReceiver 0 ∉ acts ∧ life.stage = .gone ∧ life.frames.length = 2) ∧
    writePump .nil (start.reads 0 acts ++ final.1) final.2.1 [] = (textWrites life.frames ++ [.write .close], true) :=
  have reachable : Reachable ⟨{}, []⟩ := Reachable.start (show Switchboard.start 4 0 false = .ok {} from rfl)
  have made : Switchboard.openSession {} .nil "alice" 2 =
      .ok (⟨.nil, "alice", 0⟩, { hub := Registry.addQueue {} 0 2, nextId := 1 }) := rfl
  have keeps : Act.dropReceiver 0 ∉
      [.register ⟨.nil, "alice", 0⟩, .broadcast default, .receive 0 1, .broadcast default, .unregister .nil] := by
    decide
  have life : Life.run 0 2 (World.step ⟨{}, []⟩ (.make .nil "alice" 2)) {}
      [.register ⟨.nil, "alice", 0⟩, .broadcast default, .receive 0 1, .broadcast default, .unregister .nil] =
      { stage := .gone, heard := [default, default], taken := 1 } := by
    decide
  ⟨⟨reachable, made, keeps, by rw [life], by rw [life]; rfl⟩,
    write_pump_law.2.2 reachable made _ keeps (by rw [life]) [] (fun _ _ => rfl)⟩

end ChatRelay.Socket
