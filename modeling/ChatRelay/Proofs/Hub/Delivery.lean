import ChatRelay.Proofs.Hub.World

/-! What one session receives: `Life.step` tells its life from its own side, and
the hub keeps to that life for every session made in any run. -/
namespace ChatRelay.Hub

open Chat

inductive Stage where
  /-- Made, and still held by its maker. -/
  | held
  /-- In the registry, as this session. -/
  | joined (s : Session)
  /-- Out of the registry for good. -/
  | gone
  deriving DecidableEq, Repr

/-- One session's life, seen from its side. -/
structure Life where
  stage : Stage := .held
  /-- The messages the hub queued a frame of for it, in order. -/
  heard : List Message := []
  /-- How many of those frames its reader has taken. -/
  taken : Nat := 0
  /-- Its reader has gone away. -/
  deaf : Bool := false
  deriving DecidableEq, Repr

namespace Life

def frames (l : Life) : List Frame := l.heard.map Message.wire

/-- The queue such a life leaves: the frames not taken yet, none once the
reader is gone, and a sending side until the session is gone. -/
def queue (l : Life) (capacity : Nat) : Queue :=
  ⟨capacity, if l.deaf then [] else l.frames.drop l.taken, l.stage != .gone, !l.deaf⟩

def leave (l : Life) : Life :=
  match l.stage with
  | .joined _ => { l with stage := .gone }
  | _ => l

/-- The life of the session with queue `k` and capacity `capacity` after act
`a` in world `w`. -/
def step (k : QueueId) (capacity : Nat) (w : World) (l : Life) : Act → Life
  | .register t =>
    if t.queue = k ∧ l.stage = .held then
      if w.board.running ∧ w.board.hub.isMember t.id = false then { l with stage := .joined t }
      else { l with stage := .gone }
    else l
  | .unregister id =>
    match l.stage with
    | .joined s => if w.board.running ∧ s.id = id then { l with stage := .gone } else l
    | _ => l
  | .broadcast m =>
    match l.stage with
    | .joined _ =>
      if !w.board.running then l
      else if l.deaf ∨ capacity ≤ l.heard.length - l.taken then { l with stage := .gone }
      else { l with heard := l.heard ++ [m] }
    | _ => l
  | .receive k' n => if k' = k ∧ l.deaf = false then { l with taken := min (l.taken + n) l.heard.length } else l
  | .dropReceiver k' => if k' = k then { l with deaf := true } else l
  | .dropSession k' => if k' = k ∧ l.stage = .held then { l with stage := .gone } else l
  | .signal => if w.ends .signal then l.leave else l
  | .dropHandles => if w.ends .dropHandles then l.leave else l
  | .make _ _ _ | .stats | .dropSignal => l

def run (k : QueueId) (capacity : Nat) : World → Life → List Act → Life
  | _, l, [] => l
  | w, l, a :: rest => run k capacity (w.step a) (l.step k capacity w a) rest

end Life

/-- What the stage of the session with queue `k` says of the world. -/
def Stage.Fits (w : World) (k : QueueId) : Stage → Prop
  | .held => w.holding k = true
  | .joined s => s ∈ w.board.hub.members ∧ s.queue = k ∧ w.board.running = true
  | .gone => w.board.hub.holds k = false ∧ w.holding k = false

/-- The world agrees with the life of the session with queue `k`, whose reader
has taken `read` so far. -/
structure Tracks (k : QueueId) (capacity : Nat) (w : World) (l : Life) (read : List Frame) : Prop where
  queue : w.board.queue? k = some (l.queue capacity)
  taken : l.taken ≤ l.heard.length
  read : read = l.frames.take l.taken
  stage : l.stage.Fits w k

section
variable {k : QueueId} {c : Nat} {w : World} {l : Life} {read : List Frame}

theorem Tracks.holds_iff (sound : w.Sound) (tracks : Tracks k c w l read) :
    w.board.hub.holds k = true ↔ ∃ s, l.stage = .joined s := by
  have fits := tracks.stage
  cases stage : l.stage with
  | held => rw [stage] at fits; simp [sound.not_holds fits]
  | joined s =>
    rw [stage] at fits
    obtain ⟨member, rfl, -⟩ := fits
    simpa [Registry.holds] using ⟨s, member, rfl⟩
  | gone => rw [stage] at fits; simp [fits.1]

theorem Tracks.holding_iff (sound : w.Sound) (tracks : Tracks k c w l read) :
    w.holding k = true ↔ l.stage = .held := by
  have fits := tracks.stage
  cases stage : l.stage with
  | held => rw [stage] at fits; exact iff_of_true fits rfl
  | joined s =>
    have joined : w.board.hub.holds k = true := (tracks.holds_iff sound).mpr ⟨s, stage⟩
    simp only [reduceCtorEq, iff_false, Bool.not_eq_true]
    cases held : w.holding k
    · rfl
    · simp [sound.not_holds held] at joined
  | gone => rw [stage] at fits; simp [fits.2]

theorem Tracks.unique (sound : w.Sound) (tracks : Tracks k c w l read) {s : Session}
    (stage : l.stage = .joined s) {t : Session} (member : t ∈ w.board.hub.members) (mine : t.queue = k) :
    t = s := by
  have fits := tracks.stage
  rw [stage] at fits
  exact List.inj_on_of_nodup_map sound.distinct member fits.1 (mine.trans fits.2.1.symm)

/-- An act that leaves the queue alone and keeps the stage's facts keeps the life. -/
theorem Tracks.keep (tracks : Tracks k c w l read) {w' : World}
    (queue : w'.board.queue? k = w.board.queue? k) (stage : l.stage.Fits w' k) : Tracks k c w' l read :=
  ⟨queue.trans tracks.queue, tracks.taken, tracks.read, stage⟩

theorem Tracks.keepAt (tracks : Tracks k c w l read) {w' : World} {st : Stage} (stage : l.stage = st)
    (queue : w'.board.queue? k = w.board.queue? k) (fits : st.Fits w' k) : Tracks k c w' l read :=
  tracks.keep queue (stage ▸ fits)

/-- The maker's handing over or dropping the session of another queue leaves
this queue held or not as it was. -/
theorem World.holding_filter_ne (w : World) (b : Switchboard) {k' : QueueId} (other : k' ≠ k) :
    World.holding ⟨b, w.held.filter (·.queue != k')⟩ k = w.holding k := by
  simp only [World.holding, List.any_filter]
  congr 1
  funext r
  by_cases same : r.queue = k
  · simp [same, Ne.symm other]
  · simp [same]

/-- A stage fits any world with the same registry, the same running flag and
the same holding of its queue. -/
theorem Stage.Fits.transfer {w' : World} {st : Stage} (fits : st.Fits w k)
    (members : w'.board.hub.members = w.board.hub.members) (running : w'.board.running = w.board.running)
    (holding : w'.holding k = w.holding k) : st.Fits w' k := by
  cases st with
  | held => exact holding.trans fits
  | joined s => exact ⟨members ▸ fits.1, fits.2.1, running.trans fits.2.2⟩
  | gone =>
    refine ⟨?_, holding.trans fits.2⟩
    rw [Registry.holds, members]
    exact fits.1

/-- Making another session adds a queue under a new id. -/
theorem Tracks.make (sound : w.Sound) (tracks : Tracks k c w l read) (id : SessionId) (u : String) (c' : Nat) :
    Tracks k c (w.step (.make id u c')) l read := by
  simp only [World.step]
  split
  · rename_i s b made
    obtain ⟨rfl, rfl⟩ := Switchboard.openSession_ok made
    have found : w.board.hub.queues.get? k = some (l.queue c) := tracks.queue
    have older : k < w.board.nextId := sound.lt_nextId (by simp [Switchboard.queue?, found])
    refine tracks.keep ?_ ?_
    · change (w.board.hub.queues ++ _).get? k = w.board.hub.queues.get? k
      rw [Queues.get?_append_single, found]
      rfl
    · have fits := tracks.stage
      cases stage : l.stage with
      | held =>
        rw [stage] at fits
        simp only [Stage.Fits, World.holding, List.any_append, Bool.or_eq_true] at fits ⊢
        exact Or.inl fits
      | joined s => rw [stage] at fits; exact fits
      | gone =>
        rw [stage] at fits
        simp only [Stage.Fits, World.holding, List.any_append, Bool.or_eq_false_iff] at fits ⊢
        exact ⟨fits.1, fits.2, by simpa using (Nat.ne_of_lt older).symm⟩
  · exact tracks

/-- Handing over the session with queue `k`: it joins a running hub under an id
not registered yet, and is gone at once otherwise. -/
theorem Tracks.register_own (sound : w.Sound) (tracks : Tracks k c w l read) (t : Session) (mine : t.queue = k)
    (held : w.holding t.queue) :
    Tracks k c (w.step (.register t)) (l.step k c w (.register t)) read := by
  simp only [World.step, Life.step]
  rw [if_pos held]
  subst mine
  have found : w.board.hub.queues.get? t.queue = some (l.queue c) := tracks.queue
  have stage := (tracks.holding_iff sound).mp held
  have free := sound.not_holds held
  have away : (w.held.filter (·.queue != t.queue)).any (·.queue == t.queue) = false := by
    simp [List.any_filter]
  unfold Switchboard.register
  by_cases running : w.board.running
  · by_cases known : w.board.hub.isMember t.id
    · simp only [running, known, if_true, stage, and_self, Bool.true_eq_false, and_false, if_false]
      refine ⟨?_, tracks.taken, tracks.read, ?_⟩
      · change (w.board.hub.register t).queues.get? t.queue = _
        rw [Registry.register_get?, if_pos ⟨known, rfl⟩, found]
        simp [Life.queue, Life.frames, Queue.closeSender, stage]
      · refine ⟨?_, away⟩
        change (w.board.hub.register t).holds t.queue = false
        simpa [Registry.holds, Registry.register_members, known] using free
    · simp only [Bool.not_eq_true] at known
      simp only [running, known, if_true, stage, and_self]
      refine ⟨?_, tracks.taken, tracks.read, ?_⟩
      · change (w.board.hub.register t).queues.get? t.queue = _
        rw [Registry.register_get?, if_neg (by simp [known]), found]
        simp [Life.queue, Life.frames, stage, bne]
      · refine ⟨?_, rfl, rfl⟩
        change t ∈ (w.board.hub.register t).members
        simp [Registry.register_members, known]
  · simp only [running, Bool.false_eq_true, false_and, if_false, stage, and_self]
    refine ⟨?_, tracks.taken, tracks.read, ?_⟩
    · change (w.board.hub.queues.modify t.queue Queue.closeSender).get? t.queue = _
      rw [Queues.get?_modify_self, found]
      simp [Life.queue, Life.frames, Queue.closeSender, stage]
    · exact ⟨free, away⟩

/-- Handing over a session of another queue leaves the life as it was. -/
theorem Tracks.register_other (tracks : Tracks k c w l read) (t : Session) (mine : t.queue ≠ k)
    (held : w.holding t.queue) :
    Tracks k c (w.step (.register t)) (l.step k c w (.register t)) read := by
  simp only [World.step, Life.step]
  rw [if_pos held]
  simp only [mine, false_and, if_false]
  have holding := w.holding_filter_ne (w.board.register t).2 mine
  unfold Switchboard.register
  split
  · refine tracks.keep ?_ ?_
    · change (w.board.hub.register t).queues.get? k = _
      rw [Registry.register_get?, if_neg (fun both => mine both.2)]
      rfl
    · have fits := tracks.stage
      cases stage : l.stage with
      | held => rw [stage] at fits; exact holding.trans fits
      | joined s =>
        rw [stage] at fits
        refine ⟨?_, fits.2⟩
        change s ∈ (w.board.hub.register t).members
        exact w.board.hub.mem_register_members fits.1 t
      | gone =>
        rw [stage] at fits
        refine ⟨?_, holding.trans fits.2⟩
        change (w.board.hub.register t).holds k = false
        rw [Registry.register_holds_of_ne _ mine]
        exact fits.1
  · exact tracks.keep (Queues.get?_modify_ne (Ne.symm mine) _ _) (tracks.stage.transfer rfl rfl holding)

theorem Tracks.register (sound : w.Sound) (tracks : Tracks k c w l read) (t : Session) :
    Tracks k c (w.step (.register t)) (l.step k c w (.register t)) read := by
  by_cases held : w.holding t.queue
  · by_cases mine : t.queue = k
    · exact tracks.register_own sound t mine held
    · exact tracks.register_other t mine held
  · have other : ¬ (t.queue = k ∧ l.stage = .held) := by
      rintro ⟨rfl, stage⟩
      exact held ((tracks.holding_iff sound).mpr stage)
    simp only [World.step, Life.step]
    rw [if_neg held]
    simp only [other, if_false]
    exact tracks

theorem Tracks.free (sound : w.Sound) (tracks : Tracks k c w l read) (stage : ∀ s, l.stage ≠ .joined s) :
    w.board.hub.holds k = false := by
  cases held : w.board.hub.holds k
  · rfl
  · obtain ⟨s, joined⟩ := (tracks.holds_iff sound).mp held
    exact absurd joined (stage s)

/-- A session not registered keeps its life through a step that only shrinks
the registry and leaves alone the queues it does not hold. -/
theorem Tracks.shrink (sound : w.Sound) (tracks : Tracks k c w l read) (stage : ∀ s, l.stage ≠ .joined s)
    {b : Switchboard} {p : Session → Bool} (members : b.hub.members = w.board.hub.members.filter p)
    (queue : w.board.hub.holds k = false → b.hub.queues.get? k = w.board.hub.queues.get? k) :
    Tracks k c { w with board := b } l read := by
  have free := tracks.free sound stage
  refine tracks.keep (queue free) ?_
  have fits := tracks.stage
  cases joined : l.stage with
  | held => rw [joined] at fits; exact fits
  | joined s => exact absurd joined (stage s)
  | gone =>
    rw [joined] at fits
    refine ⟨?_, fits.2⟩
    change b.hub.members.any _ = false
    rw [members]
    exact any_filter_queue_of_not_any free _

theorem Tracks.unregister (sound : w.Sound) (tracks : Tracks k c w l read) (id : SessionId) :
    Tracks k c (w.step (.unregister id)) (l.step k c w (.unregister id)) read := by
  have found : w.board.hub.queues.get? k = some (l.queue c) := tracks.queue
  simp only [World.step, Switchboard.unregister]
  by_cases running : w.board.running
  · simp only [running, if_true]
    have members := Registry.unregister_members w.board.hub id
    have queues := Registry.unregister_get? w.board.hub sound.distinct id k
    cases stage : l.stage with
    | joined s =>
      have fits := tracks.stage
      rw [stage] at fits
      obtain ⟨member, rfl, -⟩ := fits
      have touched := any_filter_queue sound.distinct member (·.id == id)
      have kept := any_filter_queue sound.distinct member (·.id != id)
      have away : w.holding s.queue = false := by
        simpa [stage] using (tracks.holding_iff sound).not.mpr
      by_cases same : s.id = id
      · simp only [Life.step, stage, running, same, and_self, if_true]
        refine ⟨?_, tracks.taken, tracks.read, ?_, away⟩
        · change (w.board.hub.unregister id).queues.get? s.queue = _
          rw [queues, touched, found]
          simp [same, Life.queue, Life.frames, Queue.closeSender, stage]
        · change (w.board.hub.unregister id).members.any _ = false
          rw [members, kept]
          simp [same]
      · simp only [Life.step, stage, running, same, and_false, if_false]
        refine tracks.keepAt stage ?_ ⟨?_, rfl, rfl⟩
        · change (w.board.hub.unregister id).queues.get? s.queue = _
          rw [queues, touched]
          simp only [beq_iff_eq, same, if_false]
          rfl
        · change s ∈ (w.board.hub.unregister id).members
          rw [members]
          simpa [same] using member
    | held | gone =>
      simp only [Life.step, stage]
      refine tracks.shrink sound (by simp [stage]) members fun free => ?_
      change (w.board.hub.unregister id).queues.get? k = _
      rw [queues, any_filter_queue_of_not_any free _, if_neg Bool.false_ne_true]
  · have stays : l.step k c w (.unregister id) = l := by
      simp only [Life.step]
      split <;> simp [running]
    simp only [running, Bool.false_eq_true, if_false, stays]
    exact tracks

theorem Life.queue_accepts (l : Life) (c : Nat) :
    (l.queue c).accepts = (!l.deaf && decide (l.heard.length - l.taken < c)) := by
  unfold Life.queue Queue.accepts
  cases l.deaf <;> simp [Life.frames]

/-- A broadcast: a registered session hears the message if its queue takes
the frame, and is gone otherwise. -/
theorem Tracks.broadcast (sound : w.Sound) (tracks : Tracks k c w l read) (m : Message) :
    Tracks k c (w.step (.broadcast m)) (l.step k c w (.broadcast m)) read := by
  have found : w.board.hub.queues.get? k = some (l.queue c) := tracks.queue
  simp only [World.step, Switchboard.broadcast]
  by_cases running : w.board.running
  · simp only [running, if_true]
    have members := Registry.broadcast_members w.board.hub sound.distinct m
    have queues := Registry.broadcast_get? w.board.hub sound.distinct m k
    cases stage : l.stage with
    | joined s =>
      have fits := tracks.stage
      rw [stage] at fits
      obtain ⟨member, rfl, -⟩ := fits
      have held : w.board.hub.holds s.queue = true := (tracks.holds_iff sound).mpr ⟨s, stage⟩
      have kept := any_filter_queue sound.distinct member (takes w.board.hub.queues)
      have taking : takes w.board.hub.queues s = (l.queue c).accepts := by simp [takes, found]
      have away : w.holding s.queue = false := by
        simpa [stage] using (tracks.holding_iff sound).not.mpr
      by_cases full : l.deaf ∨ c ≤ l.heard.length - l.taken
      · have refused : (l.queue c).accepts = false := by
          rw [Life.queue_accepts]
          rcases full with deaf | full
          · simp [deaf]
          · simp [Nat.not_lt.mpr full]
        simp only [Life.step, stage, running, full, Bool.not_true, Bool.false_eq_true, if_false, if_true]
        refine ⟨?_, tracks.taken, tracks.read, ?_, away⟩
        · change (w.board.hub.broadcast m).queues.get? s.queue = _
          rw [queues, if_pos held, found, Option.map_some, Queue.offered, if_neg (by simp [refused])]
          simp [Life.queue, Life.frames, Queue.closeSender, stage]
        · change (w.board.hub.broadcast m).members.any _ = false
          rw [members, kept, taking, refused]
      · have room : (l.queue c).accepts = true := by
          rw [Life.queue_accepts]
          simp only [not_or, Bool.not_eq_true, Nat.not_le] at full
          simp [full.1, full.2]
        have within : l.taken ≤ (l.heard.map Message.wire).length := by simpa using tracks.taken
        simp only [Life.step, stage, running, full, Bool.not_true, Bool.false_eq_true, if_false]
        refine ⟨?_, ?_, ?_, ?_⟩
        · change (w.board.hub.broadcast m).queues.get? s.queue = _
          rw [queues, if_pos held, found, Option.map_some, Queue.offered, if_pos room]
          have deaf : l.deaf = false := by simpa using (not_or.mp full).1
          simp [Queue.push, Life.queue, Life.frames, stage, deaf, (List.drop_append_of_le_length within).symm]
        · simp only [List.length_append, List.length_singleton]
          exact Nat.le_succ_of_le tracks.taken
        · rw [tracks.read]
          simp [Life.frames, List.take_append_of_le_length within]
        · refine ⟨?_, rfl, rfl⟩
          change s ∈ (w.board.hub.broadcast m).members
          rw [members, List.mem_filter, taking, room]
          exact ⟨member, rfl⟩
    | held | gone =>
      simp only [Life.step, stage]
      refine tracks.shrink sound (by simp [stage]) members fun free => ?_
      change (w.board.hub.broadcast m).queues.get? k = _
      rw [queues, if_neg (by simp [free])]
  · have stays : l.step k c w (.broadcast m) = l := by
      simp only [Life.step]
      split <;> simp [running]
    simp only [running, Bool.false_eq_true, if_false, stays]
    exact tracks

/-- Receiving from the session's queue hands its reader the next frames not
taken, as many as it asks for and as there are; receiving from another queue
changes nothing for it. -/
theorem Tracks.receive (tracks : Tracks k c w l read) (k' : QueueId) (n : Nat) :
    Tracks k c (w.step (.receive k' n)) (l.step k c w (.receive k' n)) (read ++ w.received k (.receive k' n)) := by
  have found : w.board.hub.queues.get? k = some (l.queue c) := tracks.queue
  by_cases mine : k' = k
  · subst mine
    have received : w.board.receive k' n = (((l.queue c).receive n).1, ((l.queue c).receive n).2.ended,
        { w.board with hub := { w.board.hub with
          queues := w.board.hub.queues.modify k' fun _ => ((l.queue c).receive n).2 } }) := by
      unfold Switchboard.receive
      rw [show w.board.queue? k' = some (l.queue c) from found]
    simp only [World.step, World.received, Life.step, received, if_true, true_and]
    cases deaf : l.deaf
    · rw [if_pos rfl]
      -- the mark moves past the frames taken, and never past the frames heard
      have mark : l.frames.take (min (l.taken + n) l.heard.length) = l.frames.take (l.taken + n) := by
        simp [Life.frames]
      refine ⟨?_, Nat.min_le_right _ _, ?_, tracks.stage⟩
      · simp only [Switchboard.queue?]
        rw [Queues.get?_modify_self, found]
        simp [Queue.receive, Life.queue, Life.frames, deaf]
      · show read ++ ((l.queue c).receive n).1 = l.frames.take (min (l.taken + n) l.heard.length)
        rw [tracks.read, mark, List.take_add]
        simp [Queue.receive, Life.queue, deaf]
    · simp only [Bool.true_eq_false, if_false]
      refine ⟨?_, tracks.taken, by simp [tracks.read, Queue.receive, Life.queue, deaf], tracks.stage⟩
      simp only [Switchboard.queue?]
      rw [Queues.get?_modify_self, found]
      simp [Queue.receive, Life.queue, deaf]
  · simp only [World.step, World.received, Life.step, mine, false_and, if_false, List.append_nil]
    unfold Switchboard.receive
    split
    · refine tracks.keep ?_ tracks.stage
      simp only [Switchboard.queue?]
      exact Queues.get?_modify_ne (Ne.symm mine) _ _
    · exact tracks

theorem Tracks.dropReceiver (tracks : Tracks k c w l read) (k' : QueueId) :
    Tracks k c (w.step (.dropReceiver k')) (l.step k c w (.dropReceiver k')) read := by
  have found : w.board.hub.queues.get? k = some (l.queue c) := tracks.queue
  simp only [World.step, Life.step]
  by_cases mine : k' = k
  · subst mine
    simp only [if_true]
    refine ⟨?_, tracks.taken, tracks.read, tracks.stage⟩
    change (w.board.hub.queues.modify k' _).get? k' = _
    rw [Queues.get?_modify_self, found]
    simp [Queue.closeReceiver, Life.queue]
  · simp only [mine, if_false]
    exact tracks.keep (Queues.get?_modify_ne (Ne.symm mine) _ _) tracks.stage

theorem Tracks.dropSession (sound : w.Sound) (tracks : Tracks k c w l read) (k' : QueueId) :
    Tracks k c (w.step (.dropSession k')) (l.step k c w (.dropSession k')) read := by
  have found : w.board.hub.queues.get? k = some (l.queue c) := tracks.queue
  simp only [World.step, Life.step]
  by_cases held : w.holding k'
  · rw [if_pos held]
    by_cases mine : k' = k
    · subst mine
      have stage := (tracks.holding_iff sound).mp held
      simp only [stage, and_self, if_true]
      refine ⟨?_, tracks.taken, tracks.read, sound.not_holds held, by simp [World.holding, List.any_filter]⟩
      change (w.board.hub.queues.modify k' _).get? k' = _
      rw [Queues.get?_modify_self, found]
      simp [Queue.closeSender, Life.queue, Life.frames, stage]
    · simp only [mine, false_and, if_false]
      have holding := w.holding_filter_ne (w.board.dropSession k') mine
      exact tracks.keep (Queues.get?_modify_ne (Ne.symm mine) _ _) (tracks.stage.transfer rfl rfl holding)
  · rw [if_neg held]
    have other : ¬ (k' = k ∧ l.stage = .held) := by
      rintro ⟨rfl, stage⟩
      exact held ((tracks.holding_iff sound).mpr stage)
    simp only [other, if_false]
    exact tracks

/-- The loop ends: a registered session is gone, and every other stays as it was. -/
theorem Tracks.halt (sound : w.Sound) (tracks : Tracks k c w l read) :
    Tracks k c ⟨w.board.halt, w.held⟩ l.leave read := by
  have found : w.board.hub.queues.get? k = some (l.queue c) := tracks.queue
  have queues := Registry.stop_get? w.board.hub sound.distinct k
  cases stage : l.stage with
  | joined s =>
    have held : w.board.hub.holds k = true := (tracks.holds_iff sound).mpr ⟨s, stage⟩
    have away : w.holding k = false := by simpa [stage] using (tracks.holding_iff sound).not.mpr
    simp only [Life.leave, stage]
    refine ⟨?_, tracks.taken, tracks.read, by simp [Registry.holds, Switchboard.halt, Registry.stop], away⟩
    change w.board.hub.stop.queues.get? k = _
    rw [queues, if_pos held, found]
    simp [Queue.closeSender, Life.queue, Life.frames, stage]
  | held | gone =>
    simp only [Life.leave, stage]
    -- the registry empties, which is the filter that keeps no session
    refine tracks.shrink sound (by simp [stage]) (p := fun _ => false) (List.filter_false _).symm fun free => ?_
    change w.board.hub.stop.queues.get? k = _
    rw [queues, if_neg (by simp [free])]

/-- Every act keeps the world in agreement with the session's life. -/
theorem Tracks.step (sound : w.Sound) (tracks : Tracks k c w l read) (a : Act) :
    Tracks k c (w.step a) (l.step k c w a) (read ++ w.received k a) := by
  -- only receiving hands the reader frames
  cases a with
  | receive k' n => exact tracks.receive k' n
  | make id u c' => simp only [World.received, List.append_nil]; exact tracks.make sound id u c'
  | register t => simp only [World.received, List.append_nil]; exact tracks.register sound t
  | unregister id => simp only [World.received, List.append_nil]; exact tracks.unregister sound id
  | broadcast m => simp only [World.received, List.append_nil]; exact tracks.broadcast sound m
  | stats => simp only [World.received, List.append_nil]; exact tracks
  | dropReceiver k' => simp only [World.received, List.append_nil]; exact tracks.dropReceiver k'
  | dropSession k' => simp only [World.received, List.append_nil]; exact tracks.dropSession sound k'
  | dropSignal => simp only [World.received, List.append_nil]; exact tracks.keep rfl tracks.stage
  | signal =>
    simp only [World.received, List.append_nil]
    simp only [World.step, Life.step, World.ends, Switchboard.signal]
    by_cases opened : w.board.signalOpen
    · by_cases running : w.board.running
      · simp only [opened, running, Bool.not_true, Bool.false_eq_true, if_false, if_true, Bool.and_self]
        exact tracks.halt sound
      · simp only [opened, running, Bool.not_true, Bool.false_eq_true, if_false, Bool.and_false]
        exact tracks
    · simp only [opened, Bool.not_false, if_true, Bool.false_and, Bool.false_eq_true, if_false]
      exact tracks
  | dropHandles =>
    simp only [World.received, List.append_nil]
    simp only [World.step, Life.step, World.ends, Switchboard.dropHandles]
    by_cases running : w.board.running
    · simp only [running, if_true]
      exact tracks.halt sound
    · simp only [running, Bool.false_eq_true, if_false]
      exact tracks

/-- Along any run the world keeps agreeing with the session's life; the reader
has taken, in addition, what it received from its queue during the run. -/
theorem Tracks.run (sound : w.Sound) (tracks : Tracks k c w l read) (acts : List Act) :
    Tracks k c (w.run acts) (Life.run k c w l acts) (read ++ w.reads k acts) := by
  induction acts generalizing w l read with
  | nil => simpa [World.run, Life.run, World.reads] using tracks
  | cons a rest ih =>
    have next := ih (sound.step a) (tracks.step sound a)
    simpa [World.run, Life.run, World.reads, List.append_assoc] using next

end

theorem Tracks.made {w : World} (sound : w.Sound) {id : SessionId} {u : String} {c : Nat} {s : Session}
    {b : Switchboard} (made : w.board.openSession id u c = .ok (s, b)) :
    Tracks s.queue c (w.step (.make id u c)) {} [] := by
  have start : w.step (.make id u c) = ⟨b, w.held ++ [s]⟩ := by simp [World.step, made]
  obtain ⟨rfl, rfl⟩ := Switchboard.openSession_ok made
  rw [start]
  refine ⟨?_, Nat.le_refl _, rfl, ?_⟩
  · change (w.board.hub.queues ++ _).get? w.board.nextId = _
    rw [Queues.get?_append_single, show w.board.hub.queues.get? w.board.nextId = none from
      sound.fresh _ (Nat.le_refl _)]
    simp [Life.queue, Life.frames]
  · simp [Stage.Fits, World.holding]

/-- Handing the hub a session whose id is registered leaves the registry as it is. -/
theorem World.step_register_known (w : World) {t : Session} (known : w.board.hub.isMember t.id) :
    (w.step (.register t)).board.hub.members = w.board.hub.members := by
  simp only [World.step]
  split
  · unfold Switchboard.register
    split
    · exact (Registry.register_members _ _).trans (if_pos known)
    · rfl
  · rfl

/-- The delivery law of the hub. For a session made at any point of any run,
and whatever follows: its reader has taken the first frames of the messages
the session heard, in the order they were broadcast and each once; its queue
holds the frames not taken, with its sending side there exactly until the
session is gone, so that the reader then meets the end of the queue; and the
session is registered exactly while its life says it joined. Its life is
`Life.step`: a hand-over joins it, unless the hub has stopped or the id is
registered already, and then it is gone at once having heard nothing, the
registry being left as it was; a broadcast is heard by it, unless its queue
holds `capacity` frames not taken or its reader is gone, and then it is gone;
unregistering its id and the end of the loop make it gone too. -/
theorem session_delivery {w : World} (reachable : Reachable w) {id : SessionId} {u : String} {c : Nat}
    {s : Session} {b : Switchboard} (made : w.board.openSession id u c = .ok (s, b)) (acts : List Act) :
    let start := w.step (.make id u c)
    let life := Life.run s.queue c start {} acts
    let after := start.run acts
    start.reads s.queue acts = life.frames.take life.taken ∧
    after.board.queue? s.queue = some (life.queue c) ∧
    (∀ t, t ∈ after.board.hub.members ∧ t.queue = s.queue ↔ life.stage = .joined t) ∧
    ∀ v : World, ∀ t : Session, v.board.hub.isMember t.id →
      (v.step (.register t)).board.hub.members = v.board.hub.members := by
  intro start life after
  have sound := reachable.sound
  have final := (Tracks.made sound made).run (sound.step _) acts
  have soundAfter : after.Sound := (sound.step _).run acts
  have read := final.read
  rw [List.nil_append] at read
  refine ⟨read, final.queue, fun t => ⟨?_, ?_⟩, World.step_register_known⟩
  · rintro ⟨member, mine⟩
    have held : after.board.hub.holds s.queue = true := by
      simpa [Registry.holds] using ⟨t, member, mine⟩
    obtain ⟨r, joined⟩ := (final.holds_iff soundAfter).mp held
    rw [joined, final.unique soundAfter joined member mine]
  · intro joined
    have fits := final.stage
    rw [joined] at fits
    exact ⟨fits.1, fits.2.1⟩

/-- The law at a hub just started, for a session of one place made first and
handed over: it hears a broadcast, its reader receives that frame, it hears a
second one, and a third finds its queue full. -/
theorem session_delivery_one_place :
    Reachable ⟨{}, []⟩ ∧
    Switchboard.openSession {} .nil "alice" 1 =
      .ok (⟨.nil, "alice", 0⟩, { hub := Registry.addQueue {} 0 1, nextId := 1 }) ∧
    let start := World.step ⟨{}, []⟩ (.make .nil "alice" 1)
    let acts : List Act :=
      [.register ⟨.nil, "alice", 0⟩, .broadcast default, .receive 0 1, .broadcast default, .broadcast default]
    let life := Life.run 0 1 start {} acts
    let after := start.run acts
    start.reads 0 acts = life.frames.take life.taken ∧
    after.board.queue? 0 = some (life.queue 1) ∧
    (∀ t, t ∈ after.board.hub.members ∧ t.queue = 0 ↔ life.stage = .joined t) ∧
    ∀ v : World, ∀ t : Session, v.board.hub.isMember t.id →
      (v.step (.register t)).board.hub.members = v.board.hub.members :=
  have reachable : Reachable ⟨{}, []⟩ := Reachable.start (show Switchboard.start 4 0 false = .ok {} from rfl)
  have made : Switchboard.openSession {} .nil "alice" 1 =
      .ok (⟨.nil, "alice", 0⟩, { hub := Registry.addQueue {} 0 1, nextId := 1 }) := rfl
  ⟨reachable, made, session_delivery reachable made _⟩

end ChatRelay.Hub
