import Mathlib
import ChatRelay.Proofs.Hub.Registry
import ChatRelay.Proofs.Metrics

/-! The hub's counters: `Registry.tally` counts from the events alone what they
should say, and `Counted`, kept by every turn, ties them to the registry. -/
namespace ChatRelay.Hub

open Chat

theorem nodup_eraseDups {α : Type} [BEq α] [LawfulBEq α] : ∀ l : List α, l.eraseDups.Nodup
  | [] => List.nodup_nil
  | a :: as => by
    rw [List.eraseDups_cons, List.nodup_cons]
    have shorter : (as.filter fun b => !b == a).length < as.length + 1 :=
      Nat.lt_succ_of_le (List.length_filter_le _ _)
    exact ⟨by simp, nodup_eraseDups _⟩
termination_by l => l.length

theorem length_eraseDups {α : Type} [DecidableEq α] (l : List α) : l.eraseDups.length = l.toFinset.card := by
  rw [← List.toFinset_card_of_nodup (nodup_eraseDups l)]
  congr 1
  ext a
  simp

/-- The walk of a broadcast keeps some sessions, in registry order, and evicts
the others. -/
theorem offer_partition (f : Frame) (ms : List Session) (qs : Queues) :
    (offer f qs ms).1.Sublist ms ∧ (offer f qs ms).1.length + (offer f qs ms).2.1.length = ms.length := by
  induction ms generalizing qs with
  | nil => simp [offer]
  | cons s rest ih =>
    cases taken : takes qs s
    · rw [offer_cons_of_refuses taken]
      obtain ⟨kept, split⟩ := ih qs
      exact ⟨kept.cons s, by simp only [List.length_cons]; omega⟩
    · obtain ⟨q, found, room⟩ : ∃ q, qs.get? s.queue = some q ∧ q.accepts := by
        simpa [takes, Option.any_eq_true] using taken
      rw [offer_cons_of_accepts found room]
      obtain ⟨kept, split⟩ := ih (qs.modify s.queue fun _ => q.push f)
      exact ⟨kept.cons_cons s, by simp only [List.length_cons]; omega⟩

theorem length_filter_id {ms : List Session} (ids : (ms.map (·.id)).Nodup) {id : SessionId}
    (found : ms.any (·.id == id)) : (ms.filter (·.id != id)).length + 1 = ms.length := by
  induction ms with
  | nil => simp at found
  | cons m rest ih =>
    rw [List.map_cons, List.nodup_cons] at ids
    by_cases mine : m.id = id
    · -- no other session has the id, so the filter keeps all the rest
      have others : rest.filter (·.id != id) = rest := List.filter_eq_self.mpr fun r member => by
        have : r.id ≠ id := fun same => ids.1 (List.mem_map.mpr ⟨r, member, same.trans mine.symm⟩)
        simpa using this
      simp [mine, others]
    · have later : rest.any (·.id == id) := by simpa [mine] using found
      simp [mine, ih ids.2 later]

/-! ### Turns and the tally of events -/

/-- What the hub goes through: an event its loop handles, or its sessions'
side changing the queues. -/
inductive Turn where
  | event (e : Event)
  | queues (qs : Queues)

/-- What the events say the counters should be: the Register events whose id
was not yet registered, the Unregister events that found their id, the
Broadcast events, and the registry size just before each Broadcast event,
summed. -/
structure Tally where
  joins : Nat := 0
  leaves : Nat := 0
  broadcasts : Nat := 0
  offered : Nat := 0
  deriving DecidableEq, Repr

def Tally.add (t : Tally) (h : Registry) : Event → Tally
  | .register s => if h.isMember s.id then t else { t with joins := t.joins + 1 }
  | .unregister id => if h.isMember id then { t with leaves := t.leaves + 1 } else t
  | .broadcast _ => { t with broadcasts := t.broadcasts + 1, offered := t.offered + h.members.length }
  | .stats => t

namespace Registry

def turn (h : Registry) : Turn → Registry
  | .event e => (h.handle e).1
  | .queues qs => { h with queues := qs }

def play (h : Registry) (turns : List Turn) : Registry := turns.foldl turn h

/-- Count the events among the turns, from the tally `t`, each against the
registry that handled it. -/
def tallyFrom : Registry → Tally → List Turn → Tally
  | _, t, [] => t
  | h, t, .event e :: turns => tallyFrom (h.turn (.event e)) (t.add h e) turns
  | h, t, .queues qs :: turns => tallyFrom (h.turn (.queues qs)) t turns

def tally (h : Registry) (turns : List Turn) : Tally := tallyFrom h {} turns

/-- The counters agree with the tally: the registry holds one session per id,
it counted every broadcast, delivered frames and evictions add up to the
sessions the broadcasts met, no frame was delivered before the first
broadcast, the sessions that joined are those registered, left or evicted, and
the gauge is the registry size. -/
structure Counted (h : Registry) (t : Tally) : Prop where
  ids : (h.members.map (·.id)).Nodup
  broadcasts : h.broadcasts = t.broadcasts
  offered : h.framesDelivered + h.evictions = t.offered
  quiet : h.broadcasts = 0 → h.framesDelivered = 0
  size : h.members.length + t.leaves + h.evictions = t.joins
  gauge : h.active = h.members.length

namespace Counted

variable {h : Registry} {t : Tally}

theorem empty : Counted {} {} := ⟨List.nodup_nil, rfl, rfl, fun _ => rfl, rfl, rfl⟩

theorem withQueues (counted : Counted h t) (qs : Queues) : Counted { h with queues := qs } t :=
  ⟨counted.ids, counted.broadcasts, counted.offered, counted.quiet, counted.size, counted.gauge⟩

theorem register (counted : Counted h t) (s : Session) :
    Counted (h.register s) (t.add h (.register s)) := by
  unfold Registry.register Tally.add
  by_cases known : h.isMember s.id
  · simpa [known] using counted.withQueues _
  · have fresh : ∀ m ∈ h.members, m.id ≠ s.id := by simpa [isMember] using known
    exact {
      ids := by simpa [known, List.nodup_append] using And.intro counted.ids fresh
      broadcasts := by simpa [known] using counted.broadcasts
      offered := by simpa [known] using counted.offered
      quiet := by simpa [known] using counted.quiet
      size := by simp only [known]; have := counted.size; simp; omega
      gauge := by simp [known] }

theorem unregister (counted : Counted h t) (id : SessionId) :
    Counted (h.unregister id) (t.add h (.unregister id)) := by
  unfold Registry.unregister Tally.add
  by_cases known : h.isMember id
  · have gone := length_filter_id counted.ids known
    exact {
      ids := by simpa [known] using (List.filter_sublist.map _).nodup counted.ids
      broadcasts := by simpa [known] using counted.broadcasts
      offered := by simpa [known] using counted.offered
      quiet := by simpa [known] using counted.quiet
      size := by simp only [known]; have := counted.size; simp; omega
      gauge := by simp [known] }
  · simpa [known] using counted

theorem broadcast (counted : Counted h t) (m : Message) :
    Counted (h.broadcast m) (t.add h (.broadcast m)) := by
  obtain ⟨kept, sizes⟩ := offer_partition m.wire h.members h.queues
  rw [broadcast_eq]
  exact {
    ids := (kept.map _).nodup counted.ids
    broadcasts := by simp [Tally.add, counted.broadcasts]
    offered := by simp only [Tally.add]; have := counted.offered; omega
    quiet := by simp
    size := by simp only [Tally.add]; have := counted.size; omega
    gauge := by
      simp only
      -- the gauge is set only when someone was evicted; when no one was, every
      -- session stayed and the gauge already gave their number
      split
      · rename_i none
        have noneEvicted : (offer m.wire h.queues h.members).2.1.length = 0 := by simpa using none
        rw [counted.gauge]
        omega
      · rfl }

/-- Every turn keeps the counters agreeing with the tally. -/
theorem turn (counted : Counted h t) : ∀ u : Turn,
    Counted (h.turn u) (match u with | .event e => t.add h e | .queues _ => t)
  | .event (.register s) => counted.register s
  | .event (.unregister id) => counted.unregister id
  | .event (.broadcast m) => counted.broadcast m
  | .event .stats => counted
  | .queues qs => counted.withQueues qs

theorem play (counted : Counted h t) (turns : List Turn) :
    Counted (h.play turns) (tallyFrom h t turns) := by
  induction turns generalizing h t with
  | nil => exact counted
  | cons u turns ih =>
    cases u with
    | event e => exact ih (counted.turn (.event e))
    | queues qs => exact ih (counted.turn (.queues qs))

end Counted

end Registry

namespace Registry

/-- When the loop ends the registry empties and the gauge goes to zero; the
counters stay. -/
theorem stats_stop (h : Registry) :
    h.stop.stats = ⟨0, 0, h.broadcasts, h.framesDelivered, h.evictions⟩ ∧ h.stop.active = 0 :=
  ⟨rfl, rfl⟩

end Registry

/-- The hub's counters in every state it reaches, whatever the events and
whatever the sessions do to their queues in between: its report gives the
registry size, the number of distinct usernames in the registry and the number
of Broadcast events handled, with the delivered frames and evictions it
counted; delivered frames and evictions add up to the registry sizes the
Broadcast events met; the registry size is the number of Register events with
a new id, less the Unregister events that found their id, less the evictions;
the gauge is the registry size; a Stats event changes nothing; when the loop
ends the counters stay and the gauge goes to zero with the registry; and a
scrape of the metrics of a service running this hub reads the gauge, the
chat service's counts, the number of Broadcast events and the hub's frame and
eviction counters, each as zero until its family registers. -/
theorem hub_counters (turns : List Turn) :
    let h := ({} : Registry).play turns
    let t := Registry.tally {} turns
    h.stats = ⟨h.members.length, (h.members.map (·.username)).toFinset.card, t.broadcasts,
      h.framesDelivered, h.evictions⟩ ∧
    h.framesDelivered + h.evictions = t.offered ∧
    h.members.length + t.leaves + h.evictions = t.joins ∧
    h.active = h.members.length ∧
    h.handle .stats = (h, some h.stats) ∧
    (h.stop.stats = ⟨0, 0, t.broadcasts, h.framesDelivered, h.evictions⟩ ∧
      h.stop.active = h.stop.members.length) ∧
    ∀ app : Api.App, app.hub.hub = h → app.hub.running = true →
      Metrics.valueOf app.families "ara_chat_sessions_active" = Float.ofNat h.active ∧
      Metrics.valueOf app.families "ara_chat_messages_persisted_total" = Float.ofNat app.service.persisted ∧
      Metrics.valueOf app.families "ara_chat_messages_dropped_total" = Float.ofNat app.service.dropped ∧
      Metrics.valueOf app.families "ara_chat_broadcasts_total" = Float.ofNat t.broadcasts ∧
      Metrics.valueOf app.families "ara_chat_frames_delivered_total" = Float.ofNat h.framesDelivered ∧
      Metrics.valueOf app.families "ara_chat_sessions_evicted_total" = Float.ofNat h.evictions := by
  intro h t
  have counted : Registry.Counted h t := Registry.Counted.empty.play turns
  have report : h.stats = ⟨h.members.length, (h.members.map (·.username)).toFinset.card, t.broadcasts,
      h.framesDelivered, h.evictions⟩ := by
    rw [Registry.stats, length_eraseDups, counted.broadcasts]
  refine ⟨report, counted.offered, counted.size, counted.gauge, rfl, ?_, ?_⟩
  · rw [← counted.broadcasts]
    exact (Registry.stats_stop h)
  · intro app serving running
    rw [Api.App.families_of_running running, serving, counted.gauge, ← counted.broadcasts]
    exact Api.valueOf_families _ _ _ h _ counted.quiet

/- A duplicate register, a broadcast that fills one queue, one that evicts its
session, and an unregister repeated: two joins, one leave, one eviction. -/
example :
    let turns := [Turn.queues [(0, { capacity := 1 }), (1, { capacity := 2 })],
      .event (.register ⟨.ofNat 0, "ann", 0⟩), .event (.register ⟨.ofNat 1, "bob", 1⟩),
      .event (.register ⟨.ofNat 0, "ann", 0⟩),
      .event (.broadcast default), .event (.broadcast default), .event (.unregister (.ofNat 1)), .event (.unregister (.ofNat 1))]
    let h := ({} : Registry).play turns
    (h.stats, h.active, Registry.tally {} turns) =
      (⟨0, 0, 2, 3, 1⟩, 0, { joins := 2, leaves := 1, broadcasts := 2, offered := 4 }) := by
  decide

end ChatRelay.Hub
