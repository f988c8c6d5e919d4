import Mathlib
import ChatRelay.Hub.Switchboard

/-! The registry seen from one queue: what each request does to a single queue and
to a single session's place in the registry. -/
namespace ChatRelay.Hub

open Chat

namespace Queue

/-- The queue takes one more frame: its reader is there and it has room. -/
def accepts (q : Queue) : Bool := q.receiverOpen && decide (q.frames.length < q.capacity)

def push (q : Queue) (f : Frame) : Queue := { q with frames := q.frames ++ [f] }

/-- What a broadcast does to the queue of a registered session: the frame is
queued, or the session is evicted and the sending side goes. -/
def offered (q : Queue) (f : Frame) : Queue := if q.accepts then q.push f else q.closeSender

theorem trySend_eq (q : Queue) (f : Frame) :
    q.trySend f = if q.accepts then .ok (q.push f) else .error (if q.receiverOpen then .full else .closed) := by
  unfold trySend accepts push
  cases q.receiverOpen <;> by_cases room : q.capacity ≤ q.frames.length <;> simp [room]

end Queue

namespace Queues

theorem modify_cons (p : QueueId × Queue) (qs : Queues) (k : QueueId) (f : Queue → Queue) :
    modify (p :: qs) k f = (if p.1 = k then (p.1, f p.2) else p) :: modify qs k f := rfl

theorem get?_cons (p : QueueId × Queue) (qs : Queues) (k : QueueId) :
    get? (p :: qs) k = if p.1 = k then some p.2 else get? qs k := by
  by_cases same : p.1 = k <;> simp [get?, same]

@[simp] theorem get?_nil (k : QueueId) : get? [] k = none := rfl

@[simp] theorem get?_modify_self (qs : Queues) (k : QueueId) (f : Queue → Queue) :
    (qs.modify k f).get? k = (qs.get? k).map f := by
  induction qs with
  | nil => rfl
  | cons p qs ih => by_cases same : p.1 = k <;> simp [modify_cons, get?_cons, same, ih]

theorem get?_modify_ne {k k' : QueueId} (other : k' ≠ k) (qs : Queues) (f : Queue → Queue) :
    (qs.modify k f).get? k' = qs.get? k' := by
  induction qs with
  | nil => rfl
  | cons p qs ih =>
    by_cases same : p.1 = k
    · simp [modify_cons, get?_cons, same, Ne.symm other, ih]
    · simp [modify_cons, get?_cons, same, ih]

theorem get?_modify (qs : Queues) (k k' : QueueId) (f : Queue → Queue) :
    (qs.modify k f).get? k' = if k = k' then (qs.get? k').map f else qs.get? k' := by
  by_cases same : k = k'
  · subst same; simp
  · simp [same, get?_modify_ne (Ne.symm same)]

/-- A queue added at the end is found only under a key no earlier queue has. -/
theorem get?_append_single (qs : Queues) (k k' : QueueId) (q : Queue) :
    (qs ++ [(k, q)]).get? k' = (qs.get? k').or (if k = k' then some q else none) := by
  induction qs with
  | nil => by_cases same : k = k' <;> simp [get?_cons, same]
  | cons p qs ih => by_cases same : p.1 = k' <;> simp [get?_cons, same, ih]

/-- Changing the queues of several sessions one after another changes each of
their queues once, provided no two of them hold the same queue. -/
theorem get?_foldl_modify (g : Queue → Queue) (ss : List Session)
    (distinct : (ss.map (·.queue)).Nodup) (qs : Queues) (k : QueueId) :
    (ss.foldl (fun qs s => qs.modify s.queue g) qs).get? k =
      if ss.any (·.queue == k) then (qs.get? k).map g else qs.get? k := by
  induction ss generalizing qs with
  | nil => rfl
  | cons s rest ih =>
    rw [List.map_cons, List.nodup_cons] at distinct
    obtain ⟨fresh, distinct⟩ := distinct
    rw [List.foldl_cons, ih distinct, get?_modify]
    by_cases same : s.queue = k
    · have absent : rest.any (·.queue == k) = false := by
        simp only [List.any_eq_false, beq_iff_eq]
        intro r member equal
        exact fresh (List.mem_map.mpr ⟨r, member, equal.trans same.symm⟩)
      simp [same, absent]
    · simp [same]

end Queues

theorem closeAll_get? (qs : Queues) (ss : List Session) (distinct : (ss.map (·.queue)).Nodup)
    (k : QueueId) :
    (closeAll qs ss).get? k = if ss.any (·.queue == k) then (qs.get? k).map Queue.closeSender else qs.get? k :=
  Queues.get?_foldl_modify _ ss distinct qs k

def takes (qs : Queues) (s : Session) : Bool := (qs.get? s.queue).any Queue.accepts

theorem takes_modify_ne {s : Session} {k : QueueId} (other : s.queue ≠ k) (qs : Queues)
    (f : Queue → Queue) : takes (qs.modify k f) s = takes qs s := by
  simp [takes, Queues.get?_modify_ne other]

/-- Among sessions holding different queues, a session is the one found by its
queue, so a filter keeps a session with that queue exactly when it keeps it. -/
theorem any_filter_queue {ms : List Session} (distinct : (ms.map (·.queue)).Nodup) {s : Session}
    (member : s ∈ ms) (p : Session → Bool) : (ms.filter p).any (·.queue == s.queue) = p s := by
  cases keep : p s
  · simp only [List.any_eq_false, List.mem_filter, beq_iff_eq, and_imp]
    intro r inside kept same
    have : r = s := List.inj_on_of_nodup_map distinct inside member same
    simp_all
  · exact List.any_eq_true.mpr ⟨s, List.mem_filter.mpr ⟨member, keep⟩, beq_self_eq_true _⟩

theorem any_filter_queue_of_not_any {ms : List Session} {k : QueueId} (none : ms.any (·.queue == k) = false)
    (p : Session → Bool) : (ms.filter p).any (·.queue == k) = false := by
  simp only [List.any_eq_false, List.mem_filter] at none ⊢
  exact fun r inside => none r inside.1

theorem nodup_filter_queue {ms : List Session} (distinct : (ms.map (·.queue)).Nodup) (p : Session → Bool) :
    ((ms.filter p).map (·.queue)).Nodup :=
  ((List.filter_sublist).map _).nodup distinct

theorem offer_cons_of_accepts {f : Frame} {qs : Queues} {s : Session} {q : Queue}
    (found : qs.get? s.queue = some q) (room : q.accepts) (rest : List Session) :
    offer f qs (s :: rest) =
      let r := offer f (qs.modify s.queue fun _ => q.push f) rest
      (s :: r.1, r.2.1, r.2.2) := by
  simp only [offer, found, Option.map_some, Queue.trySend_eq, room, if_true]

theorem offer_cons_of_refuses {f : Frame} {qs : Queues} {s : Session} (refused : takes qs s = false)
    (rest : List Session) :
    offer f qs (s :: rest) = let r := offer f qs rest; (r.1, s :: r.2.1, r.2.2) := by
  simp only [offer]
  split
  · rename_i q sent
    cases found : qs.get? s.queue with
    | none => simp [found] at sent
    | some q' =>
      have : q'.accepts = false := by simpa [takes, found] using refused
      simp [found, Queue.trySend_eq, this] at sent
  · generalize offer f qs rest = r
    rcases r with ⟨kept, evicted, queues⟩
    rfl

/-- The walk over the registry: the sessions whose queue takes the frame stay,
the others are evicted, and the frame is queued exactly on the queues of those
that stay. -/
theorem offer_spec (f : Frame) (ms : List Session) (distinct : (ms.map (·.queue)).Nodup) (qs : Queues) :
    (offer f qs ms).1 = ms.filter (takes qs) ∧
    (offer f qs ms).2.1 = ms.filter (fun s => !takes qs s) ∧
    ∀ k, (offer f qs ms).2.2.get? k =
      if (ms.filter (takes qs)).any (·.queue == k) then (qs.get? k).map (·.push f) else qs.get? k := by
  induction ms generalizing qs with
  | nil => simp [offer]
  | cons s rest ih =>
    rw [List.map_cons, List.nodup_cons] at distinct
    obtain ⟨fresh, distinct⟩ := distinct
    have apart : ∀ r ∈ rest, r.queue ≠ s.queue :=
      fun r member same => fresh (List.mem_map.mpr ⟨r, member, same⟩)
    cases taken : takes qs s
    · obtain ⟨kept, evicted, queues⟩ := ih distinct qs
      rw [offer_cons_of_refuses taken]
      simp [taken, kept, evicted, queues]
    · obtain ⟨q, found, room⟩ : ∃ q, qs.get? s.queue = some q ∧ q.accepts := by
        simpa [takes, Option.any_eq_true] using taken
      rw [offer_cons_of_accepts found room]
      set qs' := qs.modify s.queue fun _ => q.push f with pushed
      have keep : rest.filter (takes qs') = rest.filter (takes qs) :=
        List.filter_congr fun r member => by rw [pushed, takes_modify_ne (apart r member)]
      have drop : rest.filter (fun r => !takes qs' r) = rest.filter (fun r => !takes qs r) :=
        List.filter_congr fun r member => by rw [pushed, takes_modify_ne (apart r member)]
      obtain ⟨kept, evicted, queues⟩ := ih distinct qs'
      refine ⟨?_, ?_, fun k => ?_⟩
      · simp [taken, kept, keep]
      · simp [taken, evicted, drop]
      · rw [queues k, keep, List.filter_cons_of_pos taken, List.any_cons]
        by_cases mine : s.queue = k
        · subst mine
          have later : (rest.filter (takes qs)).any (·.queue == s.queue) = false := by
            simp only [List.any_eq_false, List.mem_filter, beq_iff_eq]
            exact fun r inside => apart r inside.1
          simp [later, pushed, found]
        · have other : (s.queue == k) = false := by simpa using mine
          simp [other, pushed, Queues.get?_modify_ne (Ne.symm mine)]

namespace Registry

def holds (h : Registry) (k : QueueId) : Bool := h.members.any (·.queue == k)

section
variable (h : Registry)

theorem broadcast_eq (m : Message) :
    h.broadcast m =
      let r := offer m.wire h.queues h.members
      { h with
        members := r.1
        queues := closeAll r.2.2 r.2.1
        broadcasts := h.broadcasts + 1
        framesDelivered := h.framesDelivered + r.1.length
        evictions := h.evictions + r.2.1.length
        active := if r.2.1.isEmpty then h.active else r.1.length } := by
  unfold broadcast
  generalize offer m.wire h.queues h.members = r
  rcases r with ⟨kept, evicted, queues⟩
  rfl

theorem register_members (t : Session) :
    (h.register t).members = if h.isMember t.id then h.members else h.members ++ [t] := by
  unfold register; split <;> rfl

theorem register_get? (t : Session) (k : QueueId) :
    (h.register t).queues.get? k =
      if h.isMember t.id ∧ t.queue = k then (h.queues.get? k).map Queue.closeSender else h.queues.get? k := by
  unfold register
  by_cases known : h.isMember t.id
  · simp [known, Queues.get?_modify]
  · simp [known]

theorem mem_register_members {s : Session} (member : s ∈ h.members) (t : Session) :
    s ∈ (h.register t).members := by
  rw [register_members]
  split
  · exact member
  · exact List.mem_append_left _ member

theorem register_holds_of_ne {t : Session} {k : QueueId} (other : t.queue ≠ k) :
    (h.register t).holds k = h.holds k := by
  rw [holds, register_members]
  split
  · rfl
  · simp [List.any_append, other, holds]

theorem unregister_members (id : SessionId) : (h.unregister id).members = h.members.filter (·.id != id) := by
  unfold unregister
  split
  · rfl
  · rename_i absent
    refine (List.filter_eq_self.mpr fun r member => ?_).symm
    simp only [isMember, List.any_eq_true, beq_iff_eq, not_exists, not_and] at absent
    simpa using absent r member

theorem unregister_get? (distinct : (h.members.map (·.queue)).Nodup) (id : SessionId) (k : QueueId) :
    (h.unregister id).queues.get? k =
      if (h.members.filter (·.id == id)).any (·.queue == k) then (h.queues.get? k).map Queue.closeSender
      else h.queues.get? k := by
  unfold unregister
  split
  · exact closeAll_get? _ _ (nodup_filter_queue distinct _) k
  · rename_i absent
    have none : (h.members.filter (·.id == id)).any (·.queue == k) = false := by
      simp only [isMember, List.any_eq_true, beq_iff_eq, not_exists, not_and] at absent
      simp only [List.any_eq_false, List.mem_filter, beq_iff_eq, and_imp]
      exact fun r member same => (absent r member same).elim
    simp [none]

theorem stop_get? (distinct : (h.members.map (·.queue)).Nodup) (k : QueueId) :
    h.stop.queues.get? k = if h.holds k then (h.queues.get? k).map Queue.closeSender else h.queues.get? k :=
  closeAll_get? _ _ distinct k

theorem broadcast_members (distinct : (h.members.map (·.queue)).Nodup) (m : Message) :
    (h.broadcast m).members = h.members.filter (takes h.queues) := by
  rw [broadcast_eq]
  exact (offer_spec m.wire h.members distinct h.queues).1

/-- What a broadcast does to a queue: the queue of a registered session takes
the frame or loses its sending side, by its own state; any other queue is left
as it was. -/
theorem broadcast_get? (distinct : (h.members.map (·.queue)).Nodup) (m : Message) (k : QueueId) :
    (h.broadcast m).queues.get? k =
      if h.holds k then (h.queues.get? k).map (·.offered m.wire) else h.queues.get? k := by
  obtain ⟨kept, evicted, pushed⟩ := offer_spec m.wire h.members distinct h.queues
  rw [broadcast_eq]
  simp only
  rw [closeAll_get? _ _ (by rw [evicted]; exact nodup_filter_queue distinct _), evicted, pushed k]
  by_cases held : h.holds k
  · obtain ⟨s, member, mine⟩ : ∃ s ∈ h.members, s.queue = k := by simpa [holds] using held
    subst mine
    rw [any_filter_queue distinct member, any_filter_queue distinct member, if_pos held]
    cases taken : takes h.queues s
    · cases found : h.queues.get? s.queue with
      | none => simp
      | some q =>
        have refuses : q.accepts = false := by simpa [takes, found] using taken
        simp [Queue.offered, refuses]
    · obtain ⟨q, found, room⟩ : ∃ q, h.queues.get? s.queue = some q ∧ q.accepts := by
        simpa [takes, Option.any_eq_true] using taken
      simp [found, Queue.offered, room]
  · have none : h.members.any (·.queue == k) = false := by simpa [holds] using held
    simp [any_filter_queue_of_not_any none, held]

end

end Registry

/-! ### What the hub queues

Whatever state the hub is in, even with two sessions on one queue, a broadcast
queues its own frame and nothing else, and every other request the hub takes
queues nothing. -/

namespace Queues

/-- The frames waiting in a queue; none for a queue that does not exist. -/
def queued (qs : Queues) (k : QueueId) : List Frame := ((qs.get? k).map (·.frames)).getD []

theorem queued_modify {qs : Queues} {k : QueueId} {g : Queue → Queue} {fs : List Frame}
    (adds : ∀ q, qs.get? k = some q → (g q).frames ⊆ q.frames ++ fs) (k' : QueueId) :
    (qs.modify k g).queued k' ⊆ qs.queued k' ++ fs := by
  rw [queued, queued, get?_modify]
  split
  · rename_i same
    subst same
    cases found : qs.get? k with
    | none => simp
    | some q => simpa using adds q found
  · exact List.subset_append_left _ _

theorem queued_closeAll (qs : Queues) (ss : List Session) (k : QueueId) :
    (closeAll qs ss).queued k ⊆ qs.queued k := by
  induction ss generalizing qs with
  | nil => exact List.Subset.refl _
  | cons s rest ih =>
    have closed := @queued_modify qs s.queue Queue.closeSender [] (fun q _ => by simp [Queue.closeSender]) k
    rw [List.append_nil] at closed
    exact List.Subset.trans (ih _) closed

theorem queued_offer (f : Frame) (ms : List Session) (qs : Queues) (k : QueueId) :
    (offer f qs ms).2.2.queued k ⊆ qs.queued k ++ [f] := by
  induction ms generalizing qs with
  | nil => exact List.subset_append_left _ _
  | cons s rest ih =>
    cases taken : takes qs s
    · rw [offer_cons_of_refuses taken]
      exact ih qs
    · obtain ⟨q, found, room⟩ : ∃ q, qs.get? s.queue = some q ∧ q.accepts := by
        simpa [takes, Option.any_eq_true] using taken
      rw [offer_cons_of_accepts found room]
      -- the pushed queue is the one found, so the walk queues `f` twice at most
      have pushed := @queued_modify qs s.queue (fun _ => q.push f) [f]
        (fun q' found' => by simp_all [Queue.push]) k
      intro x mem
      rcases List.mem_append.mp (ih _ mem) with early | late
      · exact pushed early
      · exact List.mem_append_right _ late

end Queues

namespace Registry

variable (h : Registry)

theorem queued_broadcast (m : Message) (k : QueueId) :
    (h.broadcast m).queues.queued k ⊆ h.queues.queued k ++ [m.wire] := by
  rw [broadcast_eq]
  exact List.Subset.trans (Queues.queued_closeAll _ _ k) (Queues.queued_offer _ _ _ k)

theorem queued_unregister (id : SessionId) (k : QueueId) :
    (h.unregister id).queues.queued k ⊆ h.queues.queued k := by
  unfold unregister
  split
  · exact Queues.queued_closeAll _ _ k
  · exact List.Subset.refl _

end Registry

namespace Switchboard

variable (b : Switchboard)

theorem queued_broadcast (m : Message) (k : QueueId) :
    (b.broadcast m).2.hub.queues.queued k ⊆ b.hub.queues.queued k ++ [m.wire] := by
  unfold broadcast
  split
  · exact b.hub.queued_broadcast m k
  · exact List.subset_append_left _ _

theorem queued_unregister (id : SessionId) (k : QueueId) :
    (b.unregister id).2.hub.queues.queued k ⊆ b.hub.queues.queued k := by
  unfold unregister
  split
  · exact b.hub.queued_unregister id k
  · exact List.Subset.refl _

theorem broadcasts_running (ms : List Message) (b : Switchboard) :
    (ms.foldl (fun b m => (b.broadcast m).2) b).running = b.running := by
  induction ms generalizing b with
  | nil => rfl
  | cons m rest ih =>
    rw [List.foldl_cons, ih]
    unfold broadcast
    split <;> rfl

theorem queued_broadcasts (ms : List Message) (b : Switchboard) (k : QueueId) :
    (ms.foldl (fun b m => (b.broadcast m).2) b).hub.queues.queued k ⊆
      b.hub.queues.queued k ++ ms.map Message.wire := by
  induction ms generalizing b with
  | nil => simp
  | cons m rest ih =>
    intro x mem
    rcases List.mem_append.mp (ih _ mem) with early | late
    · rcases List.mem_append.mp (b.queued_broadcast m k early) with old | new
      · exact List.mem_append_left _ old
      · exact List.mem_append_right _ (by simp_all)
    · exact List.mem_append_right _ (List.mem_cons_of_mem _ late)

end Switchboard

end ChatRelay.Hub
