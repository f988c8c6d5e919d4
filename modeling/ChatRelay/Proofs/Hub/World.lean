import ChatRelay.Proofs.Hub.Registry

/-! The hub among its clients, who make sessions, hand them over, call the hub and
read their queues, one act at a time; every world reached is `Sound`. -/
namespace ChatRelay.Hub

open Chat

/-- What can happen around a hub, one thing at a time. -/
inductive Act where
  /-- A client makes a session for a user, with the id drawn for it and a queue
  of some capacity. -/
  | make (id : SessionId) (username : String) (capacity : Nat)
  /-- A client hands a session it holds to the hub, with the id and user it set. -/
  | register (s : Session)
  | unregister (id : SessionId)
  | broadcast (m : Message)
  | stats
  /-- The reader of a queue receives up to `n` of the frames buffered in it. -/
  | receive (k : QueueId) (n : Nat)
  | dropReceiver (k : QueueId)
  /-- A client drops a session it still holds. -/
  | dropSession (k : QueueId)
  | signal
  | dropSignal
  | dropHandles
  deriving DecidableEq, Repr

/-- A hub and the sessions made and still held by their makers. -/
structure World where
  board : Switchboard
  held : List Session := []
  deriving DecidableEq, Repr

namespace World

/-- A session with queue `k` is still held by its maker. -/
def holding (w : World) (k : QueueId) : Bool := w.held.any (·.queue == k)

/-- The world after one act. Handing over or dropping a session that is not
held is no act at all: such a session has been moved already. -/
def step (w : World) : Act → World
  | .make id u c =>
    match w.board.openSession id u c with
    | .ok (s, b) => ⟨b, w.held ++ [s]⟩
    | .error _ => w
  | .register s =>
    if w.holding s.queue then ⟨(w.board.register s).2, w.held.filter (·.queue != s.queue)⟩ else w
  | .unregister id => { w with board := (w.board.unregister id).2 }
  | .broadcast m => { w with board := (w.board.broadcast m).2 }
  | .stats => w
  | .receive k n => { w with board := (w.board.receive k n).2.2 }
  | .dropReceiver k => { w with board := w.board.dropReceiver k }
  | .dropSession k =>
    if w.holding k then ⟨w.board.dropSession k, w.held.filter (·.queue != k)⟩ else w
  | .signal =>
    match w.board.signal with
    | some (_, b) => { w with board := b }
    | none => w
  | .dropSignal => { w with board := w.board.dropSignal }
  | .dropHandles => { w with board := w.board.dropHandles }

/-- The world after a sequence of acts. -/
def run (w : World) : List Act → World
  | [] => w
  | a :: rest => (w.step a).run rest

/-- The frames the reader of queue `k` receives at act `a`. -/
def received (k : QueueId) (w : World) : Act → List Frame
  | .receive k' n => if k' = k then (w.board.receive k n).1 else []
  | _ => []

/-- The frames the reader of queue `k` receives during a run. -/
def reads (k : QueueId) (w : World) : List Act → List Frame
  | [] => []
  | a :: rest => w.received k a ++ reads k (w.step a) rest

/-- The act ends the hub's loop: the signal reaches a running loop, or the
last handle goes while it runs. -/
def ends (w : World) : Act → Bool
  | .signal => w.board.signalOpen && w.board.running
  | .dropHandles => w.board.running
  | _ => false

end World

/-- The worlds of a hub that started, after any acts. -/
inductive Reachable : World → Prop
  | start {mailbox signals : Nat} {senderGone : Bool} {b : Switchboard} :
      Switchboard.start mailbox signals senderGone = .ok b → Reachable ⟨b, []⟩
  | step {w : World} (a : Act) : Reachable w → Reachable (w.step a)

/-- A session made has the id drawn for it and a new queue, the next one. -/
theorem Switchboard.openSession_ok {b b' : Switchboard} {id : SessionId} {u : String} {c : Nat} {s : Session}
    (made : b.openSession id u c = .ok (s, b')) :
    s = ⟨id, u, b.nextId⟩ ∧ b' = { b with hub := b.hub.addQueue b.nextId c, nextId := b.nextId + 1 } := by
  unfold Switchboard.openSession at made
  split at made
  · cases made
  split at made
  · cases made
  split at made
  · cases made
  obtain ⟨rfl, rfl⟩ := Prod.mk.inj (Except.ok.inj made)
  exact ⟨rfl, rfl⟩

namespace World

/-- What every reachable world satisfies. -/
structure Sound (w : World) : Prop where
  /-- The registry knows each id once. -/
  ids : (w.board.hub.members.map (·.id)).Nodup
  /-- Registered sessions hold different queues. -/
  distinct : (w.board.hub.members.map (·.queue)).Nodup
  /-- So do held sessions. -/
  heldDistinct : (w.held.map (·.queue)).Nodup
  /-- No registered session holds the queue of a held one. -/
  apart : ∀ s ∈ w.held, w.board.hub.holds s.queue = false
  /-- Each of them has its queue. -/
  present : ∀ s ∈ w.board.hub.members ++ w.held, (w.board.queue? s.queue).isSome
  /-- No queue exists under the next id or later. -/
  fresh : ∀ k, w.board.nextId ≤ k → w.board.queue? k = none

section
variable {w : World}

/-- A queue held by its maker is held by no registered session. -/
theorem Sound.not_holds (sound : w.Sound) {k : QueueId} (held : w.holding k) : w.board.hub.holds k = false := by
  obtain ⟨s, mine, rfl⟩ : ∃ s ∈ w.held, s.queue = k := by simpa [holding] using held
  exact sound.apart s mine

/-- A session's queue was made before the next id. -/
theorem Sound.lt_nextId (sound : w.Sound) {k : QueueId} (made : (w.board.queue? k).isSome) :
    k < w.board.nextId := by
  by_contra later
  simp [sound.fresh k (Nat.le_of_not_lt later)] at made

/-- A step that keeps every queue in being and the next id, and keeps only
sessions it had, keeps the world sound. -/
theorem Sound.of_frame (sound : w.Sound) {w' : World} (nextId : w'.board.nextId = w.board.nextId)
    (queues : ∀ k, (w'.board.queue? k).isSome = (w.board.queue? k).isSome)
    (members : w'.board.hub.members.Sublist w.board.hub.members) (held : w'.held.Sublist w.held) :
    w'.Sound where
  ids := (members.map _).nodup sound.ids
  distinct := (members.map _).nodup sound.distinct
  heldDistinct := (held.map _).nodup sound.heldDistinct
  apart s mine := by
    have before := sound.apart s (held.subset mine)
    simp only [Registry.holds, List.any_eq_false] at before ⊢
    exact fun r member => before r (members.subset member)
  present s mine := by
    rw [queues]
    rcases List.mem_append.mp mine with member | kept
    · exact sound.present s (List.mem_append_left _ (members.subset member))
    · exact sound.present s (List.mem_append_right _ (held.subset kept))
  fresh k later := by
    rw [← Option.not_isSome_iff_eq_none, queues k, sound.fresh k (nextId ▸ later)]
    simp

/-- A made session brings its queue, under the next id. -/
theorem Sound.make (sound : w.Sound) {id : SessionId} {u : String} {c : Nat} {s : Session} {b : Switchboard}
    (made : w.board.openSession id u c = .ok (s, b)) : (World.mk b (w.held ++ [s])).Sound := by
  obtain ⟨rfl, rfl⟩ := Switchboard.openSession_ok made
  have present (r : Session) (mine : r ∈ w.board.hub.members ++ w.held) :
      (w.board.hub.queues.get? r.queue).isSome := sound.present r mine
  have fresh (k : QueueId) (later : w.board.nextId ≤ k) : w.board.hub.queues.get? k = none := sound.fresh k later
  have older : ∀ r ∈ w.board.hub.members ++ w.held, r.queue < w.board.nextId :=
    fun r mine => sound.lt_nextId (sound.present r mine)
  have found (k : QueueId) : (w.board.hub.queues ++ [(w.board.nextId, ({ capacity := c } : Queue))]).get? k =
      (w.board.hub.queues.get? k).or (if w.board.nextId = k then some ({ capacity := c } : Queue) else none) :=
    Queues.get?_append_single _ _ _ _
  refine ⟨sound.ids, sound.distinct, ?_, ?_, ?_, ?_⟩
  · simp only [List.map_append, List.map_singleton]
    refine List.nodup_append.mpr ⟨sound.heldDistinct, List.nodup_singleton _, ?_⟩
    intro a mine b new
    obtain ⟨r, kept, rfl⟩ := List.mem_map.mp mine
    rw [List.mem_singleton.mp new]
    exact Nat.ne_of_lt (older r (List.mem_append_right _ kept))
  · intro r mine
    rcases List.mem_append.mp mine with kept | new
    · exact sound.apart r kept
    · rw [List.mem_singleton.mp new]
      simp only [Registry.holds, Registry.addQueue, List.any_eq_false, beq_iff_eq]
      exact fun t member => Nat.ne_of_lt (older t (List.mem_append_left _ member))
  · intro r mine
    simp only [Switchboard.queue?, Registry.addQueue, found]
    simp only [Registry.addQueue, List.mem_append, List.mem_singleton] at mine
    rcases mine with member | kept | rfl
    · simp [present r (List.mem_append_left _ member)]
    · simp [present r (List.mem_append_right _ kept)]
    · simp [fresh _ (Nat.le_refl _)]
  · intro k later
    simp only [Switchboard.queue?, Registry.addQueue, found]
    change w.board.nextId + 1 ≤ k at later
    rw [fresh k (Nat.le_of_succ_le later), Option.none_or]
    exact if_neg (Nat.ne_of_lt (Nat.lt_of_succ_le later))

/-- A session handed over joins the registry when its id is new there. -/
theorem Sound.join (sound : w.Sound) {t : Session} (held : w.holding t.queue)
    (fresh : w.board.hub.isMember t.id = false) :
    (World.mk { w.board with hub := w.board.hub.register t } (w.held.filter (·.queue != t.queue))).Sound := by
  have members : (w.board.hub.register t).members = w.board.hub.members ++ [t] := by
    simp [Registry.register_members, fresh]
  have queues (k : QueueId) : (w.board.hub.register t).queues.get? k = w.board.hub.queues.get? k := by
    simp [Registry.register_get?, fresh]
  have absent : t.queue ∉ w.board.hub.members.map (·.queue) := by
    have := sound.not_holds held
    simpa [Registry.holds] using this
  obtain ⟨s, mine, same⟩ : ∃ s ∈ w.held, s.queue = t.queue := by simpa [holding] using held
  refine ⟨?_, ?_, ?_, ?_, ?_, ?_⟩
  · rw [members, List.map_append, List.map_singleton]
    refine List.nodup_append.mpr ⟨sound.ids, List.nodup_singleton _, ?_⟩
    intro a named b new equal
    rw [List.mem_singleton] at new
    obtain ⟨r, member, rfl⟩ := List.mem_map.mp named
    simp only [Registry.isMember, List.any_eq_false, beq_iff_eq] at fresh
    exact fresh r member (equal.trans new)
  · rw [members, List.map_append, List.map_singleton]
    refine List.nodup_append.mpr ⟨sound.distinct, List.nodup_singleton _, ?_⟩
    intro a inside b new equal
    rw [List.mem_singleton] at new
    exact absent (equal.trans new ▸ inside)
  · exact (List.filter_sublist.map _).nodup sound.heldDistinct
  · intro r kept
    obtain ⟨inside, other⟩ := List.mem_filter.mp kept
    have before := sound.apart r inside
    simp only [Registry.holds, List.any_eq_false, beq_iff_eq] at before ⊢
    rw [members]
    intro x member same
    rcases List.mem_append.mp member with old | new
    · exact before x old same
    · rw [List.mem_singleton.mp new] at same
      simp [same] at other
  · intro r mine
    change ((w.board.hub.register t).queues.get? r.queue).isSome
    rw [queues]
    rw [members, List.mem_append, List.mem_append, List.mem_singleton] at mine
    rcases mine with (member | rfl) | kept
    · exact sound.present r (List.mem_append_left _ member)
    · rw [← same]; exact sound.present s (List.mem_append_right _ mine)
    · exact sound.present r (List.mem_append_right _ (List.mem_filter.mp kept).1)
  · intro k later
    change (w.board.hub.register t).queues.get? k = none
    rw [queues]
    exact sound.fresh k later

section
variable (h : Registry) (distinct : (h.members.map (·.queue)).Nodup)
include distinct

theorem isSome_unregister (id : SessionId) (k : QueueId) :
    ((h.unregister id).queues.get? k).isSome = (h.queues.get? k).isSome := by
  rw [Registry.unregister_get? h distinct]; split <;> simp

theorem isSome_broadcast (m : Message) (k : QueueId) :
    ((h.broadcast m).queues.get? k).isSome = (h.queues.get? k).isSome := by
  rw [Registry.broadcast_get? h distinct]; split <;> simp

theorem isSome_stop (k : QueueId) : (h.stop.queues.get? k).isSome = (h.queues.get? k).isSome := by
  rw [Registry.stop_get? h distinct]; split <;> simp

end

theorem isSome_modify (qs : Queues) (k k' : QueueId) (f : Queue → Queue) :
    ((qs.modify k f).get? k').isSome = (qs.get? k').isSome := by
  rw [Queues.get?_modify]; split <;> simp

theorem isSome_receive (b : Switchboard) (k : QueueId) (n : Nat) (k' : QueueId) :
    ((b.receive k n).2.2.queue? k').isSome = (b.queue? k').isSome := by
  unfold Switchboard.receive
  split
  · simp only [Switchboard.queue?, Queue.receive]
    exact isSome_modify _ _ _ _
  · rfl

/-- The loop ends: the registry empties and the queues stay. -/
theorem Sound.halt (sound : w.Sound) : (World.mk w.board.halt w.held).Sound :=
  sound.of_frame rfl (isSome_stop _ sound.distinct) (List.nil_sublist _) (List.Sublist.refl _)

/-- Every act keeps a world sound. -/
theorem Sound.step (sound : w.Sound) (a : Act) : (w.step a).Sound := by
  cases a with
  | make id u c =>
    simp only [World.step]
    split
    · exact sound.make ‹_›
    · exact sound
  | register t =>
    simp only [World.step]
    split
    · rename_i held
      unfold Switchboard.register
      split
      · by_cases known : w.board.hub.isMember t.id
        · refine sound.of_frame rfl (fun k => ?_) ?_ List.filter_sublist
          · change ((w.board.hub.register t).queues.get? k).isSome = _
            rw [Registry.register_get?]; split <;> simp [Switchboard.queue?]
          · change (w.board.hub.register t).members.Sublist _
            rw [Registry.register_members, if_pos known]
        · exact sound.join held (by simpa using known)
      · exact sound.of_frame rfl (fun k => isSome_modify w.board.hub.queues t.queue k _) (List.Sublist.refl _)
          List.filter_sublist
    · exact sound
  | unregister id =>
    simp only [World.step, Switchboard.unregister]
    split
    · exact sound.of_frame rfl (isSome_unregister _ sound.distinct id)
        (by simp [Registry.unregister_members]) (List.Sublist.refl _)
    · exact sound
  | broadcast m =>
    simp only [World.step, Switchboard.broadcast]
    split
    · exact sound.of_frame rfl (isSome_broadcast _ sound.distinct m)
        (by simp [Registry.broadcast_members _ sound.distinct]) (List.Sublist.refl _)
    · exact sound
  | stats => exact sound
  | receive k n =>
    have same : (w.board.receive k n).2.2.nextId = w.board.nextId := by
      unfold Switchboard.receive; split <;> rfl
    have members : (w.board.receive k n).2.2.hub.members = w.board.hub.members := by
      unfold Switchboard.receive; split <;> rfl
    exact sound.of_frame same (isSome_receive _ k n) (members ▸ List.Sublist.refl _) (List.Sublist.refl _)
  | dropReceiver k =>
    exact sound.of_frame rfl (fun k' => isSome_modify w.board.hub.queues k k' _) (List.Sublist.refl _)
      (List.Sublist.refl _)
  | dropSession k =>
    simp only [World.step]
    split
    · exact sound.of_frame rfl (fun k' => isSome_modify w.board.hub.queues k k' _) (List.Sublist.refl _)
        List.filter_sublist
    · exact sound
  | signal =>
    simp only [World.step, Switchboard.signal]
    by_cases opened : w.board.signalOpen
    · by_cases running : w.board.running
      · simp only [opened, running, Bool.not_true, Bool.false_eq_true, if_false, if_true]
        exact sound.halt
      · simp only [opened, running, Bool.not_true, Bool.false_eq_true, if_false]
        exact sound
    · simp only [opened, Bool.not_false, if_true]
      exact sound
  | dropSignal => exact sound.of_frame rfl (fun _ => rfl) (List.Sublist.refl _) (List.Sublist.refl _)
  | dropHandles =>
    simp only [World.step, Switchboard.dropHandles]
    split
    · exact sound.halt
    · exact sound

end

theorem Sound.run {w : World} (sound : w.Sound) (acts : List Act) : (w.run acts).Sound := by
  induction acts generalizing w with
  | nil => exact sound
  | cons a rest ih => exact ih (sound.step a)

end World

theorem Reachable.sound {w : World} (reachable : Reachable w) : w.Sound := by
  induction reachable with
  | start started =>
    unfold Switchboard.start at started
    split at started
    · cases started
    split at started
    · cases started
    split at started <;> cases started <;>
      exact ⟨List.nodup_nil, List.nodup_nil, List.nodup_nil, by simp, by simp, fun k _ => rfl⟩
  | step a _ sound => exact sound.step a

end ChatRelay.Hub
