import Mathlib
import ChatRelay.Hub.Loop
import ChatRelay.Proofs.Hub.Counters
import ChatRelay.Proofs.Hub.World

/-! The hub stopping. Every open sending side is held by a maker, the registry or a
register letter in the mailbox (`Scene.Kept`), so once the loop stops every
session handed over has had its sending side dropped. -/
namespace ChatRelay.Hub

open Chat

namespace Queues

/-- The queue `k` exists and its sending side is there. -/
def opened (qs : Queues) (k : QueueId) : Prop := ∃ q, qs.get? k = some q ∧ q.senderOpen = true

/-- The queues after a change that keeps every queue and brings back no
sending side. -/
def Narrows (qs' qs : Queues) : Prop :=
  ∀ k, (qs'.get? k).isSome = (qs.get? k).isSome ∧ (qs'.opened k → qs.opened k)

theorem Narrows.refl (qs : Queues) : Narrows qs qs := fun _ => ⟨rfl, id⟩

theorem Narrows.trans {qs'' qs' qs : Queues} (later : Narrows qs'' qs') (earlier : Narrows qs' qs) :
    Narrows qs'' qs :=
  fun k => ⟨(later k).1.trans (earlier k).1, (earlier k).2 ∘ (later k).2⟩

theorem Narrows.opened {qs' qs : Queues} (narrows : Narrows qs' qs) {k : QueueId} (open' : qs'.opened k) :
    qs.opened k :=
  (narrows k).2 open'

/-- Changing one queue by a change that brings back no sending side of the
queue found there. -/
theorem narrows_modify (qs : Queues) (k : QueueId) {f : Queue → Queue}
    (keeps : ∀ q, qs.get? k = some q → (f q).senderOpen = true → q.senderOpen = true) :
    Narrows (qs.modify k f) qs := by
  intro k'
  unfold opened
  rw [get?_modify]
  split
  · rename_i same
    subst same
    refine ⟨by simp, ?_⟩
    rintro ⟨q', found', open'⟩
    obtain ⟨q, found, rfl⟩ := Option.map_eq_some_iff.mp found'
    exact ⟨q, found, keeps q found open'⟩
  · exact ⟨rfl, id⟩

theorem not_opened_modify_closeSender (qs : Queues) (k : QueueId) : ¬ (qs.modify k Queue.closeSender).opened k := by
  rintro ⟨q, found, open'⟩
  rw [get?_modify_self, Option.map_eq_some_iff] at found
  obtain ⟨q₀, -, rfl⟩ := found
  simp [Queue.closeSender] at open'

end Queues

theorem closeAll_narrows (qs : Queues) (ss : List Session) : (closeAll qs ss).Narrows qs := by
  induction ss generalizing qs with
  | nil => exact Queues.Narrows.refl qs
  | cons s rest ih =>
    exact (ih _).trans (Queues.narrows_modify qs s.queue fun _ _ shut => by simp [Queue.closeSender] at shut)

theorem closeAll_closes (qs : Queues) {ss : List Session} {s : Session} (member : s ∈ ss) :
    ¬ (closeAll qs ss).opened s.queue := by
  induction ss generalizing qs with
  | nil => cases member
  | cons t rest ih =>
    intro open'
    rcases List.mem_cons.mp member with rfl | later
    · exact Queues.not_opened_modify_closeSender qs s.queue ((closeAll_narrows _ rest).opened open')
    · exact ih _ later open'

/-- The walk of a broadcast only queues frames. -/
theorem offer_narrows (f : Frame) (ms : List Session) (qs : Queues) : (offer f qs ms).2.2.Narrows qs := by
  induction ms generalizing qs with
  | nil => exact Queues.Narrows.refl qs
  | cons s rest ih =>
    cases taken : takes qs s
    · rw [offer_cons_of_refuses taken]
      exact ih qs
    · obtain ⟨q, found, room⟩ : ∃ q, qs.get? s.queue = some q ∧ q.accepts := by
        simpa [takes, Option.any_eq_true] using taken
      rw [offer_cons_of_accepts found room]
      -- the one queue changed is the one found, so its sending side is the one found
      refine (ih _).trans (Queues.narrows_modify qs s.queue fun q' found' open' => ?_)
      rw [found] at found'
      cases found'
      exact open'

/-- The walk of a broadcast keeps or evicts each registered session. -/
theorem offer_covers (f : Frame) (ms : List Session) (qs : Queues) {s : Session} (member : s ∈ ms) :
    s ∈ (offer f qs ms).1 ∨ s ∈ (offer f qs ms).2.1 := by
  induction ms generalizing qs with
  | nil => cases member
  | cons t rest ih =>
    cases taken : takes qs t
    · rw [offer_cons_of_refuses taken]
      dsimp only
      rcases List.mem_cons.mp member with rfl | later
      · exact .inr List.mem_cons_self
      · exact (ih qs later).imp id (List.mem_cons_of_mem _)
    · obtain ⟨q, found, room⟩ : ∃ q, qs.get? t.queue = some q ∧ q.accepts := by
        simpa [takes, Option.any_eq_true] using taken
      rw [offer_cons_of_accepts found room]
      dsimp only
      rcases List.mem_cons.mp member with rfl | later
      · exact .inl List.mem_cons_self
      · exact (ih _ later).imp (List.mem_cons_of_mem _) id

/-! ### What each request does to open queues -/

namespace Registry

variable (h : Registry)

theorem register_narrows (t : Session) : (h.register t).queues.Narrows h.queues := by
  unfold register
  split
  · exact Queues.narrows_modify _ _ fun _ _ shut => by simp [Queue.closeSender] at shut
  · exact Queues.Narrows.refl _

theorem register_closes {t : Session} (known : h.isMember t.id) : ¬ (h.register t).queues.opened t.queue := by
  unfold register
  rw [if_pos known]
  exact Queues.not_opened_modify_closeSender _ _

theorem unregister_narrows (id : SessionId) : (h.unregister id).queues.Narrows h.queues := by
  unfold unregister
  split
  · exact closeAll_narrows _ _
  · exact Queues.Narrows.refl _

theorem unregister_closes {s : Session} (member : s ∈ h.members) :
    ¬ (h.unregister s.id).queues.opened s.queue := by
  have known : h.isMember s.id := List.any_eq_true.mpr ⟨s, member, beq_self_eq_true _⟩
  unfold unregister
  rw [if_pos known]
  exact closeAll_closes _ (List.mem_filter.mpr ⟨member, beq_self_eq_true _⟩)

theorem broadcast_narrows (m : Message) : (h.broadcast m).queues.Narrows h.queues := by
  rw [broadcast_eq]
  exact (closeAll_narrows _ _).trans (offer_narrows _ _ _)

/-- A broadcast keeps some registered sessions and drops the sending side of
the others. -/
theorem broadcast_members_or_closes (m : Message) {s : Session} (member : s ∈ h.members) :
    s ∈ (h.broadcast m).members ∨ ¬ (h.broadcast m).queues.opened s.queue := by
  rw [broadcast_eq]
  exact (offer_covers _ _ _ member).imp id (closeAll_closes _)

theorem broadcast_members_sub (m : Message) : (h.broadcast m).members ⊆ h.members := by
  rw [broadcast_eq]
  exact (offer_partition _ _ _).1.subset

theorem stop_narrows : h.stop.queues.Narrows h.queues := closeAll_narrows _ _

theorem stop_closes {s : Session} (member : s ∈ h.members) : ¬ h.stop.queues.opened s.queue :=
  closeAll_closes _ member

/-- Every sending side of `next` was one of `prev`, and a session registered in
`prev` is registered in `next` still or has lost its sending side. -/
def Follows (next prev : Registry) : Prop :=
  next.queues.Narrows prev.queues ∧ ∀ u ∈ prev.members, u ∈ next.members ∨ ¬ next.queues.opened u.queue

theorem register_follows (t : Session) : (h.register t).Follows h := by
  refine ⟨h.register_narrows t, fun u member => .inl ?_⟩
  unfold register
  split
  · exact member
  · exact List.mem_append_left _ member

/-- A session handed over is registered, or dropped when its id is taken. -/
theorem register_member_or_closes (t : Session) :
    t ∈ (h.register t).members ∨ ¬ (h.register t).queues.opened t.queue := by
  by_cases known : h.isMember t.id
  · exact .inr (h.register_closes known)
  · left
    unfold register
    rw [if_neg known]
    exact List.mem_append_right _ (List.mem_singleton_self _)

theorem unregister_follows (id : SessionId) : (h.unregister id).Follows h := by
  refine ⟨h.unregister_narrows id, fun u member => ?_⟩
  by_cases leaving : u.id = id
  · rw [← leaving]
    exact .inr (h.unregister_closes member)
  · left
    unfold unregister
    split
    · exact List.mem_filter.mpr ⟨member, by simpa using leaving⟩
    · exact member

theorem broadcast_follows (m : Message) : (h.broadcast m).Follows h :=
  ⟨h.broadcast_narrows m, fun _ member => h.broadcast_members_or_closes m member⟩

end Registry

namespace Switchboard

section
variable {b : Switchboard} (running : b.running = true)
include running

theorem register_of_running (t : Session) : (b.register t).2 = { b with hub := b.hub.register t } := by
  rw [register, if_pos running]

theorem unregister_of_running (id : SessionId) : (b.unregister id).2 = { b with hub := b.hub.unregister id } := by
  rw [unregister, if_pos running]

theorem broadcast_of_running (m : Message) : (b.broadcast m).2 = { b with hub := b.hub.broadcast m } := by
  rw [broadcast, if_pos running]

theorem stats_of_running : b.stats = .ok b.hub.stats := by
  rw [stats, if_pos running]

end

end Switchboard

/-! ### The loop's own steps -/

namespace Loop

section
variable (l : Loop)

theorem drop_frame (letter : Letter) :
    (l.drop letter).board.running = l.board.running ∧
    (l.drop letter).board.listening = l.board.listening ∧
    (l.drop letter).board.signalOpen = l.board.signalOpen ∧
    (l.drop letter).board.nextId = l.board.nextId ∧
    (l.drop letter).board.hub.members = l.board.hub.members ∧
    (l.drop letter).mailbox = l.mailbox ∧ (l.drop letter).handles = l.handles ∧
    (l.drop letter).signals = l.signals := by
  cases letter <;> exact ⟨rfl, rfl, rfl, rfl, rfl, rfl, rfl, rfl⟩

theorem drop_narrows (letter : Letter) : (l.drop letter).board.hub.queues.Narrows l.board.hub.queues := by
  cases letter with
  | register t => exact Queues.narrows_modify _ _ fun _ _ shut => by simp [Queue.closeSender] at shut
  | _ => exact Queues.Narrows.refl _

/-- A stats call left waiting by a dropped letter was waiting before, and the
letter was not its own. -/
theorem drop_waiting (letter : Letter) {n : Nat} (waits : (l.drop letter).answers[n]? = some none) :
    l.answers[n]? = some none ∧ letter ≠ .stats n := by
  cases letter with
  | stats m =>
    simp only [drop, List.getElem?_set] at waits
    split at waits
    · rename_i same
      split at waits <;> simp_all
    · exact ⟨waits, by simpa using ‹¬m = n›⟩
  | _ => exact ⟨waits, by simp⟩

theorem drop_answered (letter : Letter) {n : Nat} {e : HubError}
    (answered : (l.drop letter).answers[n]? = some (some (.error e))) :
    l.answers[n]? = some (some (.error e)) ∨ e = .closed := by
  cases letter with
  | stats m =>
    simp only [drop, List.getElem?_set] at answered
    split at answered
    · split at answered <;> simp_all
    · exact .inl answered
  | _ => exact .inl answered

end

section
variable (letters : List Letter)

theorem foldl_drop_frame (l : Loop) :
    (letters.foldl drop l).board.running = l.board.running ∧
    (letters.foldl drop l).board.listening = l.board.listening ∧
    (letters.foldl drop l).board.signalOpen = l.board.signalOpen ∧
    (letters.foldl drop l).board.nextId = l.board.nextId ∧
    (letters.foldl drop l).board.hub.members = l.board.hub.members ∧
    (letters.foldl drop l).mailbox = l.mailbox ∧ (letters.foldl drop l).handles = l.handles ∧
    (letters.foldl drop l).signals = l.signals := by
  induction letters generalizing l with
  | nil => exact ⟨rfl, rfl, rfl, rfl, rfl, rfl, rfl, rfl⟩
  | cons letter rest ih =>
    obtain ⟨a, b, c, d, e, f, g, i⟩ := ih (l.drop letter)
    obtain ⟨a', b', c', d', e', f', g', i'⟩ := l.drop_frame letter
    exact ⟨a.trans a', b.trans b', c.trans c', d.trans d', e.trans e', f.trans f', g.trans g', i.trans i'⟩

theorem foldl_drop_narrows (l : Loop) :
    (letters.foldl drop l).board.hub.queues.Narrows l.board.hub.queues := by
  induction letters generalizing l with
  | nil => exact Queues.Narrows.refl _
  | cons letter rest ih => exact (ih _).trans (l.drop_narrows letter)

theorem foldl_drop_closes (l : Loop) {t : Session} (carried : Letter.register t ∈ letters) :
    ¬ (letters.foldl drop l).board.hub.queues.opened t.queue := by
  induction letters generalizing l with
  | nil => cases carried
  | cons letter rest ih =>
    intro open'
    rcases List.mem_cons.mp carried with rfl | later
    · exact Queues.not_opened_modify_closeSender _ _ ((foldl_drop_narrows rest _).opened open')
    · exact ih _ later open'

theorem foldl_drop_waiting (l : Loop) {n : Nat} (waits : (letters.foldl drop l).answers[n]? = some none) :
    l.answers[n]? = some none ∧ Letter.stats n ∉ letters := by
  induction letters generalizing l with
  | nil => exact ⟨waits, List.not_mem_nil⟩
  | cons letter rest ih =>
    obtain ⟨before, absent⟩ := ih _ waits
    obtain ⟨earlier, other⟩ := l.drop_waiting letter before
    exact ⟨earlier, fun member => (List.mem_cons.mp member).elim (fun same => other same.symm) absent⟩

theorem foldl_drop_answered (l : Loop) {n : Nat} {e : HubError}
    (answered : (letters.foldl drop l).answers[n]? = some (some (.error e))) :
    l.answers[n]? = some (some (.error e)) ∨ e = .closed := by
  induction letters generalizing l with
  | nil => exact .inl answered
  | cons letter rest ih =>
    rcases ih _ answered with before | closed
    · exact l.drop_answered letter before
    · exact .inr closed

end

section
variable (l : Loop)

/-- The stopped loop: nothing registered, nothing in the mailbox, the sending
sides of the registered sessions and of the sessions in register letters
dropped, and no stats call of a dropped letter left waiting. -/
theorem stop_spec :
    l.stop.board.running = false ∧ l.stop.board.listening = false ∧
    l.stop.board.signalOpen = l.board.signalOpen ∧ l.stop.board.nextId = l.board.nextId ∧
    l.stop.board.hub.members = [] ∧ l.stop.mailbox = [] ∧ l.stop.handles = l.handles ∧
    l.stop.signals = l.signals ∧
    l.stop.board.hub.queues.Narrows l.board.hub.queues ∧
    (∀ t ∈ l.board.hub.members, ¬ l.stop.board.hub.queues.opened t.queue) ∧
    (∀ t, Letter.register t ∈ l.mailbox → ¬ l.stop.board.hub.queues.opened t.queue) ∧
    (∀ n : Nat, l.stop.answers[n]? = some none → l.answers[n]? = some none ∧ Letter.stats n ∉ l.mailbox) ∧
    (∀ (n : Nat) (e : HubError), l.stop.answers[n]? = some (some (Except.error e)) →
      l.answers[n]? = some (some (Except.error e)) ∨ e = .closed) := by
  obtain ⟨running, listening, signalOpen, nextId, members, mailbox, handles, signals⟩ :=
    foldl_drop_frame l.mailbox { l with board := l.board.halt, mailbox := [] }
  have narrows := foldl_drop_narrows l.mailbox { l with board := l.board.halt, mailbox := [] }
  refine ⟨running, listening, signalOpen, nextId, members, mailbox, handles, signals,
    narrows.trans l.board.hub.stop_narrows, fun t member open' => ?_, fun t carried => foldl_drop_closes _ _ carried,
    fun n waits => foldl_drop_waiting l.mailbox { l with board := l.board.halt, mailbox := [] } waits,
    fun n e answered => foldl_drop_answered l.mailbox { l with board := l.board.halt, mailbox := [] } answered⟩
  exact l.board.hub.stop_closes member (narrows.opened open')

/-- A call that got through: a running loop has the letter at the end of its
mailbox, a stopped one has dropped it. -/
theorem post_some {letter : Letter} {r : Except HubError Unit} {l' : Loop} (posted : l.post letter = some (r, l')) :
    (l.board.running = true ∧ l' = { l with mailbox := l.mailbox ++ [letter] }) ∨
      (l.board.running = false ∧ l' = l.drop letter) := by
  unfold post at posted
  split at posted
  · split at posted
    · obtain ⟨-, rfl⟩ := Prod.mk.inj (Option.some.inj posted)
      exact .inl ⟨‹_›, rfl⟩
    · cases posted
  · rename_i stopped
    obtain ⟨-, rfl⟩ := Prod.mk.inj (Option.some.inj posted)
    exact .inr ⟨by simpa using stopped, rfl⟩

/-- A call that got through leaves the registry and the next queue alone, and the
mailbox as it was or with the letter at its end. -/
theorem post_frame {letter : Letter} {r : Except HubError Unit} {l' : Loop} (posted : l.post letter = some (r, l')) :
    (l'.mailbox = l.mailbox ∨ l'.mailbox = l.mailbox ++ [letter]) ∧
      l'.board.hub.members = l.board.hub.members ∧ l'.board.nextId = l.board.nextId := by
  rcases l.post_some posted with ⟨-, rfl⟩ | ⟨-, rfl⟩
  · exact ⟨.inr rfl, rfl, rfl⟩
  · obtain ⟨-, -, -, nextId, members, mailbox, -⟩ := l.drop_frame letter
    exact ⟨.inl mailbox, members, nextId⟩

end

end Loop

/-! ### The loop among its clients -/

/-- What can happen around the hub's loop, one thing at a time. -/
inductive Move where
  /-- A client makes a session for a user, with a queue of some capacity. -/
  | make (username : String) (capacity : Nat)
  /-- A client hands a session it holds to the hub, with the id and user it set. -/
  | register (s : Session)
  | unregister (id : SessionId)
  | broadcast (m : Message)
  | stats
  /-- The loop takes from its mailbox. -/
  | take
  /-- The loop takes from the shutdown channel. -/
  | hear
  | signal
  | dropSignal
  | cloneHandle
  | dropHandle
  /-- The reader of a queue takes everything buffered in it. -/
  | drain (k : QueueId)
  | dropReceiver (k : QueueId)
  /-- A client drops a session it still holds. -/
  | dropSession (k : QueueId)
  deriving DecidableEq, Repr

/-- The loop, the sessions made and still held by their makers, every session
handed to the hub so far, in order, and the ids drawn for the sessions: the
one made when `n` queues exist gets `ids n`. -/
structure Scene where
  loop : Loop
  held : List Session := []
  handed : List Session := []
  ids : Nat → SessionId

namespace Scene

def holding (s : Scene) (k : QueueId) : Bool := s.held.any (·.queue == k)

/-- A call through a handle, for a client that has one. -/
def call (s : Scene) (letter : Letter) : Scene :=
  if 0 < s.loop.handles then
    match s.loop.post letter with
    | some (_, l) => { s with loop := l }
    | none => s
  else s

/-- The scene after one move. A call that waits for room in the mailbox has
not happened yet; handing over a session moves it, so only a session still
held can be handed over, and it is handed over even when the call is refused. -/
def step (s : Scene) : Move → Scene
  | .make u c =>
    match s.loop.board.openSession (s.ids s.loop.board.nextId) u c with
    | .ok (t, b) => { s with loop := { s.loop with board := b }, held := s.held ++ [t] }
    | .error _ => s
  | .register t =>
    if s.holding t.queue ∧ 0 < s.loop.handles then
      match s.loop.post (.register t) with
      | some (_, l) => ⟨l, s.held.filter (·.queue != t.queue), s.handed ++ [t], s.ids⟩
      | none => s
    else s
  | .unregister id => s.call (.unregister id)
  | .broadcast m => s.call (.broadcast m)
  | .stats =>
    if 0 < s.loop.handles then
      match s.loop.ask with
      | some (_, l) => { s with loop := l }
      | none => s
    else s
  | .take => { s with loop := s.loop.take }
  | .hear => { s with loop := s.loop.hear }
  | .signal => { s with loop := s.loop.signal }
  | .dropSignal => { s with loop := s.loop.dropSignal }
  | .cloneHandle => if 0 < s.loop.handles then { s with loop := s.loop.cloneHandle } else s
  | .dropHandle => { s with loop := s.loop.dropHandle }
  | .drain k => { s with loop := { s.loop with board := (s.loop.board.drain k).2.2 } }
  | .dropReceiver k => { s with loop := { s.loop with board := s.loop.board.dropReceiver k } }
  | .dropSession k =>
    if s.holding k then
      ⟨{ s.loop with board := s.loop.board.dropSession k }, s.held.filter (·.queue != k), s.handed, s.ids⟩
    else s

/-- The scenes of a hub that was made, after any moves. -/
inductive Reachable : Scene → Prop
  | start {room : Nat} {l : Loop} {ids : Nat → SessionId} : Loop.start room = .ok l → Reachable ⟨l, [], [], ids⟩
  | step {s : Scene} (m : Move) : Reachable s → Reachable (s.step m)

/-- Someone holds the sending side of queue `k`: a maker, the registry, or a
register letter in the mailbox. -/
def owns (s : Scene) (k : QueueId) : Prop :=
  (∃ t ∈ s.held, t.queue = k) ∨ (∃ t ∈ s.loop.board.hub.members, t.queue = k) ∨
    ∃ t, Letter.register t ∈ s.loop.mailbox ∧ t.queue = k

/-- What every reachable scene satisfies. -/
structure Kept (s : Scene) : Prop where
  /-- A sending side that is there is held by someone. -/
  owned : ∀ k, s.loop.board.hub.queues.opened k → s.owns k
  /-- A session handed over is held by its maker no more. -/
  apart : ∀ t ∈ s.handed, ∀ u ∈ s.held, u.queue ≠ t.queue
  /-- Every session made has its queue. -/
  made : ∀ t ∈ s.held ++ s.handed, (s.loop.board.hub.queues.get? t.queue).isSome
  /-- No queue exists under the next id or later. -/
  fresh : ∀ k, s.loop.board.nextId ≤ k → s.loop.board.hub.queues.get? k = none
  /-- A stopped loop has an empty mailbox and an empty registry. -/
  quiet : s.loop.board.running = false → s.loop.mailbox = [] ∧ s.loop.board.hub.members = []
  /-- A stats call that waits has its letter in the mailbox. -/
  waiting : ∀ n : Nat, s.loop.answers[n]? = some none → Letter.stats n ∈ s.loop.mailbox
  /-- The only error a stats call gets is that the hub is closed. -/
  answered : ∀ (n : Nat) (e : HubError), s.loop.answers[n]? = some (some (Except.error e)) → e = .closed

section
variable {s : Scene}

theorem Kept.start {room : Nat} {l : Loop} (started : Loop.start room = .ok l) (ids : Nat → SessionId) :
    Kept ⟨l, [], [], ids⟩ := by
  unfold Loop.start at started
  split at started
  · cases started
  split at started
  · cases started
  cases started
  exact ⟨fun k ⟨q, found, _⟩ => by simp at found, by simp, by simp, fun _ _ => rfl, by simp, by simp, by simp⟩

/-- A move that changes only the queues, without bringing back a sending side,
and what the invariant does not read. -/
theorem Kept.frame (kept : s.Kept) {s' : Scene}
    (queues : s'.loop.board.hub.queues.Narrows s.loop.board.hub.queues)
    (nextId : s'.loop.board.nextId = s.loop.board.nextId) (held : s'.held = s.held) (handed : s'.handed = s.handed)
    (members : s'.loop.board.hub.members = s.loop.board.hub.members) (mailbox : s'.loop.mailbox = s.loop.mailbox)
    (answers : s'.loop.answers = s.loop.answers) (running : s'.loop.board.running = s.loop.board.running) :
    s'.Kept where
  owned k open' := by
    have := kept.owned k (queues.opened open')
    unfold owns at this ⊢
    rwa [held, members, mailbox]
  apart := by rw [held, handed]; exact kept.apart
  made t mine := by
    rw [held, handed] at mine
    rw [(queues t.queue).1]
    exact kept.made t mine
  fresh k later := by
    rw [← Option.not_isSome_iff_eq_none, (queues k).1, Option.not_isSome_iff_eq_none]
    exact kept.fresh k (nextId ▸ later)
  quiet stopped := by
    rw [mailbox, members]
    exact kept.quiet (running ▸ stopped)
  waiting n := by rw [answers, mailbox]; exact kept.waiting n
  answered n e := by rw [answers]; exact kept.answered n e

/-- The loop stops: only the makers keep sending sides. -/
theorem Kept.stop (kept : s.Kept) : Kept { s with loop := s.loop.stop } := by
  obtain ⟨running, -, -, nextId, members, mailbox, -, -, narrows, closesMembers, closesLetters, waits, errors⟩ :=
    s.loop.stop_spec
  refine ⟨fun k open' => ?_, kept.apart, fun t mine => ?_, fun k later => ?_, fun _ => ⟨mailbox, members⟩,
    fun n stuck => ?_, fun n e got => ?_⟩
  · rcases kept.owned k (narrows.opened open') with mine | ⟨t, member, rfl⟩ | ⟨t, carried, rfl⟩
    · exact .inl mine
    · exact absurd open' (closesMembers t member)
    · exact absurd open' (closesLetters t carried)
  · rw [(narrows t.queue).1]
    exact kept.made t mine
  · rw [← Option.not_isSome_iff_eq_none, (narrows k).1, Option.not_isSome_iff_eq_none]
    exact kept.fresh k (nextId ▸ later)
  · obtain ⟨before, absent⟩ := waits n stuck
    exact absurd (kept.waiting n before) absent
  · rcases errors n e got with before | closed
    · exact kept.answered n e before
    · exact closed

/-- A made session brings a queue of its own, under the next id. -/
theorem Kept.make (kept : s.Kept) {id : SessionId} {u : String} {c : Nat} {t : Session} {b : Switchboard}
    (made : s.loop.board.openSession id u c = .ok (t, b)) :
    Kept { s with loop := { s.loop with board := b }, held := s.held ++ [t] } := by
  obtain ⟨rfl, rfl⟩ := Switchboard.openSession_ok made
  have found (k : QueueId) := Queues.get?_append_single s.loop.board.hub.queues s.loop.board.nextId k
    ({ capacity := c } : Queue)
  have older (r : Session) (mine : r ∈ s.held ++ s.handed) : r.queue ≠ s.loop.board.nextId := by
    intro same
    have gone := kept.fresh r.queue (Nat.le_of_eq same.symm)
    have exists' := kept.made r mine
    rw [gone] at exists'
    exact absurd exists' (by simp)
  refine ⟨fun k open' => ?_, fun r handed v held => ?_, fun r mine => ?_, fun k later => ?_, kept.quiet,
    kept.waiting, kept.answered⟩
  · obtain ⟨q, got, shut⟩ := open'
    change (s.loop.board.hub.queues ++ _).get? k = _ at got
    rw [found] at got
    cases before : s.loop.board.hub.queues.get? k with
    | some q₀ =>
      rw [before, Option.some_or] at got
      rcases kept.owned k ⟨q₀, before, by rw [Option.some.inj got]; exact shut⟩ with mine | member | carried
      · obtain ⟨r, r_held, same⟩ := mine
        exact .inl ⟨r, List.mem_append_left _ r_held, same⟩
      · exact .inr (.inl member)
      · exact .inr (.inr carried)
    | none =>
      rw [before, Option.none_or] at got
      split at got
      · exact .inl ⟨_, List.mem_append_right _ (List.mem_singleton_self _), ‹_›⟩
      · cases got
  · rcases List.mem_append.mp held with old | new
    · exact kept.apart r handed v old
    · rw [List.mem_singleton.mp new]
      exact (older r (List.mem_append_right _ handed)).symm
  · change ((s.loop.board.hub.queues ++ _).get? r.queue).isSome
    rw [found]
    rcases List.mem_append.mp mine with inner | handed
    · rcases List.mem_append.mp inner with old | new
      · simp [kept.made r (List.mem_append_left _ old)]
      · rw [List.mem_singleton.mp new]
        simp
    · simp [kept.made r (List.mem_append_right _ handed)]
  · change (s.loop.board.hub.queues ++ _).get? k = none
    change s.loop.board.nextId + 1 ≤ k at later
    rw [found, kept.fresh k (Nat.le_of_succ_le later), Option.none_or]
    exact if_neg (Nat.ne_of_lt (Nat.lt_of_succ_le later))

theorem Kept.holding_made (kept : s.Kept) {k : QueueId} (holding : s.holding k) :
    (s.loop.board.hub.queues.get? k).isSome := by
  obtain ⟨u, mine, rfl⟩ : ∃ u ∈ s.held, u.queue = k := by simpa [Scene.holding] using holding
  exact kept.made u (List.mem_append_left _ mine)

theorem Kept.enqueue (kept : s.Kept) (running : s.loop.board.running = true) (letter : Letter) :
    Kept { s with loop := { s.loop with mailbox := s.loop.mailbox ++ [letter] } } := by
  refine ⟨fun k open' => ?_, kept.apart, kept.made, kept.fresh, fun stopped => absurd running (by simp_all),
    fun n waits => List.mem_append_left _ (kept.waiting n waits), kept.answered⟩
  rcases kept.owned k open' with mine | member | ⟨r, carried, rfl⟩
  · exact .inl mine
  · exact .inr (.inl member)
  · exact .inr (.inr ⟨r, List.mem_append_left _ carried, rfl⟩)

theorem Kept.ask (kept : s.Kept) (running : s.loop.board.running = true) :
    Kept { s with
      loop := { s.loop with
        answers := s.loop.answers ++ [none]
        mailbox := s.loop.mailbox ++ [.stats s.loop.answers.length] } } := by
  have enqueued := kept.enqueue running (.stats s.loop.answers.length)
  refine ⟨enqueued.owned, kept.apart, kept.made, kept.fresh, enqueued.quiet, fun n waits => ?_, fun n e got => ?_⟩
  · rw [List.getElem?_append] at waits
    split at waits
    · exact List.mem_append_left _ (kept.waiting n waits)
    · have last : n = s.loop.answers.length := by
        have := List.getElem?_eq_some_iff.mp waits
        simp at this
        omega
      rw [last]
      exact List.mem_append_right _ (List.mem_singleton_self _)
  · rw [List.getElem?_append] at got
    split at got
    · exact kept.answered n e got
    · simp [List.getElem?_eq_some_iff] at got

theorem Kept.askRefused (kept : s.Kept) :
    Kept { s with
      loop := { s.loop with
        answers := (s.loop.answers ++ [none]).set s.loop.answers.length (some (.error .closed)) } } := by
  refine ⟨kept.owned, kept.apart, kept.made, kept.fresh, kept.quiet, fun n waits => ?_, fun n e got => ?_⟩
  · rw [List.getElem?_set] at waits
    split at waits
    · simp at waits
    · rw [List.getElem?_append] at waits
      split at waits
      · exact kept.waiting n waits
      · have := List.getElem?_eq_some_iff.mp waits
        simp at this
        omega
  · rw [List.getElem?_set] at got
    split at got
    · simp at got
      exact got.symm
    · rw [List.getElem?_append] at got
      split at got
      · exact kept.answered n e got
      · simp [List.getElem?_eq_some_iff] at got

/-- The running loop takes a register, unregister or broadcast letter, and the
registry becomes one that follows the old. -/
theorem Kept.takeRequest (kept : s.Kept) (running : s.loop.board.running = true) {letter : Letter}
    {rest : List Letter} (mailbox : s.loop.mailbox = letter :: rest) (request : ∀ n, letter ≠ .stats n)
    {h : Registry} (follows : h.Follows s.loop.board.hub)
    (carried : ∀ t, letter = .register t → t ∈ h.members ∨ ¬ h.queues.opened t.queue) :
    Kept { s with loop := { s.loop with mailbox := rest, board := { s.loop.board with hub := h } } } := by
  refine ⟨fun k open' => ?_, kept.apart, fun t mine => ?_, fun k later => ?_,
    fun stopped => absurd running (by simp_all), fun n waits => ?_, kept.answered⟩
  · rcases kept.owned k (follows.1.opened open') with mine | ⟨u, member, rfl⟩ | ⟨t, mailed, rfl⟩
    · exact .inl mine
    · exact (follows.2 u member).elim (fun stays => .inr (.inl ⟨u, stays, rfl⟩)) (absurd open')
    · rw [mailbox] at mailed
      rcases List.mem_cons.mp mailed with head | later
      · exact (carried t head.symm).elim (fun stays => .inr (.inl ⟨t, stays, rfl⟩)) (absurd open')
      · exact .inr (.inr ⟨t, later, rfl⟩)
  · change (h.queues.get? t.queue).isSome
    rw [(follows.1 t.queue).1]
    exact kept.made t mine
  · change h.queues.get? k = none
    rw [← Option.not_isSome_iff_eq_none, (follows.1 k).1, Option.not_isSome_iff_eq_none]
    exact kept.fresh k later
  · have mailed := kept.waiting n waits
    rw [mailbox] at mailed
    exact (List.mem_cons.mp mailed).resolve_left fun head => request n head.symm

theorem Kept.takeStats (kept : s.Kept) (running : s.loop.board.running = true) {n : Nat}
    {rest : List Letter} (mailbox : s.loop.mailbox = .stats n :: rest) :
    Kept { s with
      loop := { s.loop with
        mailbox := rest
        answers := s.loop.answers.set n (some (.ok s.loop.board.hub.stats)) } } := by
  refine ⟨fun k open' => ?_, kept.apart, kept.made, kept.fresh, fun stopped => absurd running (by simp_all),
    fun m waits => ?_, fun m e got => ?_⟩
  · rcases kept.owned k open' with mine | member | ⟨t, mailed, rfl⟩
    · exact .inl mine
    · exact .inr (.inl member)
    · rw [mailbox] at mailed
      exact .inr (.inr ⟨t, (List.mem_cons.mp mailed).resolve_left Letter.noConfusion, rfl⟩)
  · rw [List.getElem?_set] at waits
    split at waits
    · simp at waits
    · have mailed := kept.waiting m waits
      rw [mailbox] at mailed
      exact (List.mem_cons.mp mailed).resolve_left fun head => by simp_all
  · rw [List.getElem?_set] at got
    split at got
    · simp at got
    · exact kept.answered m e got

theorem Kept.take (kept : s.Kept) : Kept { s with loop := s.loop.take } := by
  unfold Loop.take
  split
  · rename_i running
    split
    · rename_i letter rest mailbox
      cases letter with
      | register t =>
        rw [Loop.handle, Switchboard.register_of_running running]
        exact kept.takeRequest running mailbox (fun _ => Letter.noConfusion) (Registry.register_follows _ t)
          fun _ same => by cases same; exact Registry.register_member_or_closes _ _
      | unregister id =>
        rw [Loop.handle, Switchboard.unregister_of_running running]
        exact kept.takeRequest running mailbox (fun _ => Letter.noConfusion) (Registry.unregister_follows _ id)
          fun _ => Letter.noConfusion
      | broadcast m =>
        rw [Loop.handle, Switchboard.broadcast_of_running running]
        exact kept.takeRequest running mailbox (fun _ => Letter.noConfusion) (Registry.broadcast_follows _ m)
          fun _ => Letter.noConfusion
      | stats n =>
        rw [Loop.handle, Switchboard.stats_of_running running]
        exact kept.takeStats running mailbox
    · split
      · exact kept.stop
      · exact kept
  · exact kept

/-- A session whose maker holds it no more joins those handed over. -/
theorem Kept.hand (kept : s.Kept) {t : Session} (made : (s.loop.board.hub.queues.get? t.queue).isSome)
    (away : ∀ u ∈ s.held, u.queue ≠ t.queue) : Kept { s with handed := s.handed ++ [t] } := by
  refine ⟨kept.owned, fun r handed u mine => ?_, fun r mine => ?_, kept.fresh, kept.quiet, kept.waiting,
    kept.answered⟩
  · rcases List.mem_append.mp handed with old | new
    · exact kept.apart r old u mine
    · rw [List.mem_singleton.mp new]
      exact away u mine
  · rw [← List.append_assoc] at mine
    rcases List.mem_append.mp mine with old | new
    · exact kept.made r old
    · rw [List.mem_singleton.mp new]
      exact made

/-- The makers let go of queue `k`, whose sending side is held elsewhere, if
it is there at all. -/
theorem Kept.unhold (kept : s.Kept) (k : QueueId)
    (elsewhere : s.loop.board.hub.queues.opened k →
      (∃ t ∈ s.loop.board.hub.members, t.queue = k) ∨ ∃ t, Letter.register t ∈ s.loop.mailbox ∧ t.queue = k) :
    Kept { s with held := s.held.filter (·.queue != k) } := by
  refine ⟨fun k' open' => ?_, fun t handed u mine => kept.apart t handed u (List.mem_filter.mp mine).1,
    fun t mine => kept.made t ?_, kept.fresh, kept.quiet, kept.waiting, kept.answered⟩
  · rcases kept.owned k' open' with ⟨u, mine, rfl⟩ | others
    · by_cases same : u.queue = k
      · rw [same] at open' ⊢
        exact .inr (elsewhere open')
      · exact .inl ⟨u, List.mem_filter.mpr ⟨mine, by simpa using same⟩, rfl⟩
    · exact .inr others
  · rcases List.mem_append.mp mine with held | handed
    · exact List.mem_append_left _ (List.mem_filter.mp held).1
    · exact List.mem_append_right _ handed

theorem Kept.shut (kept : s.Kept) (k : QueueId) :
    Kept { s with loop := { s.loop with board := s.loop.board.dropSession k } } :=
  kept.frame (Queues.narrows_modify _ _ fun _ _ shut => by simp [Queue.closeSender] at shut) rfl rfl rfl rfl rfl
    rfl rfl

theorem away_of_filter {t u : Session} {held : List Session} (mine : u ∈ held.filter (·.queue != t.queue)) :
    u.queue ≠ t.queue := by
  simpa using (List.mem_filter.mp mine).2

theorem Kept.handOver (kept : s.Kept) {t : Session} (holding : s.holding t.queue)
    (running : s.loop.board.running = true) :
    Kept ⟨{ s.loop with mailbox := s.loop.mailbox ++ [.register t] }, s.held.filter (·.queue != t.queue),
      s.handed ++ [t], s.ids⟩ :=
  have mailed : ∃ r, Letter.register r ∈ s.loop.mailbox ++ [.register t] ∧ r.queue = t.queue :=
    ⟨t, List.mem_append_right _ (List.mem_singleton_self _), rfl⟩
  ((kept.enqueue running (.register t)).unhold t.queue fun _ => .inr mailed).hand (kept.holding_made holding)
    fun _ => away_of_filter

theorem Kept.handOverRefused (kept : s.Kept) {t : Session} (holding : s.holding t.queue) :
    Kept ⟨s.loop.drop (.register t), s.held.filter (·.queue != t.queue), s.handed ++ [t], s.ids⟩ :=
  have made := kept.holding_made holding
  ((kept.shut t.queue).unhold t.queue fun open' => absurd open' (Queues.not_opened_modify_closeSender _ _)).hand
    (by rw [← made]; exact World.isSome_modify _ _ _ _) fun _ => away_of_filter

/-- A call through a handle, of a letter that nobody waits on. -/
theorem Kept.call (kept : s.Kept) {letter : Letter} (plain : s.loop.drop letter = s.loop) : (s.call letter).Kept := by
  unfold Scene.call
  split
  · split
    · rename_i posted
      rcases Loop.post_some _ posted with ⟨running, rfl⟩ | ⟨-, rfl⟩
      · exact kept.enqueue running letter
      · rw [plain]
        exact kept
    · exact kept
  · exact kept

theorem Kept.hear (kept : s.Kept) : Kept { s with loop := s.loop.hear } := by
  unfold Loop.hear
  split
  · split
    · exact kept.stop
    · exact kept.frame (.refl _) rfl rfl rfl rfl rfl rfl rfl
    · exact kept
  · exact kept

theorem Kept.drain (kept : s.Kept) (k : QueueId) :
    Kept { s with loop := { s.loop with board := (s.loop.board.drain k).2.2 } } := by
  unfold Switchboard.drain
  split
  · rename_i q found
    have narrows : (s.loop.board.hub.queues.modify k fun _ => q.drain.2).Narrows s.loop.board.hub.queues :=
      Queues.narrows_modify _ _ fun q' found' stays => by
        rw [← Option.some.inj (found.symm.trans found')]
        exact stays
    exact kept.frame narrows rfl rfl rfl rfl rfl rfl rfl
  · exact kept

/-- Every move keeps the invariant. -/
theorem Kept.step (kept : s.Kept) : ∀ m, (s.step m).Kept
  | .make u c => by
    simp only [Scene.step]
    split
    · exact kept.make ‹_›
    · exact kept
  | .register t => by
    simp only [Scene.step]
    split
    · rename_i allowed
      split
      · rename_i posted
        rcases Loop.post_some _ posted with ⟨running, rfl⟩ | ⟨-, rfl⟩
        · exact kept.handOver allowed.1 running
        · exact kept.handOverRefused allowed.1
      · exact kept
    · exact kept
  | .unregister _ => kept.call rfl
  | .broadcast _ => kept.call rfl
  | .stats => by
    simp only [Scene.step]
    split
    · split
      · rename_i posted
        rcases Loop.post_some _ posted with ⟨running, rfl⟩ | ⟨-, rfl⟩
        · exact kept.ask running
        · exact kept.askRefused
      · exact kept
    · exact kept
  | .take => kept.take
  | .hear => kept.hear
  | .signal => by
    simp only [Scene.step, Loop.signal]
    split
    · exact kept.frame (.refl _) rfl rfl rfl rfl rfl rfl rfl
    · exact kept
  | .dropSignal | .cloneHandle | .dropHandle => by
    simp only [Scene.step]
    try split
    all_goals exact kept.frame (.refl _) rfl rfl rfl rfl rfl rfl rfl
  | .drain k => kept.drain k
  | .dropReceiver k =>
    kept.frame (Queues.narrows_modify _ _ fun _ _ stays => by simpa [Queue.closeReceiver] using stays) rfl rfl rfl
      rfl rfl rfl rfl
  | .dropSession k => by
    simp only [Scene.step]
    split
    · exact (kept.shut k).unhold k fun open' => absurd open' (Queues.not_opened_modify_closeSender _ _)
    · exact kept

theorem Reachable.kept {s : Scene} (reachable : s.Reachable) : s.Kept := by
  induction reachable with
  | start started => exact Kept.start started _
  | step m _ ih => exact ih.step m

end

end Scene

end ChatRelay.Hub
